import StockApi.Library.Rounding
import StockApi.Library.Checked
import StockApi.Library.Float64
import Mathlib.NumberTheory.Padics.PadicVal.Defs

/-!
# The decimal arithmetic of the kernel

Positive decimals of thirty-four digits. A result is rounded in the decimal context of that
precision, whose exponents are bounded; what is too large is refused, and what is too small keeps
fewer digits.
-/

namespace StockApi.Adjustment

open Checked Rounding

structure AdjustmentFactorError where
  message : String
deriving DecidableEq

/-- `localcontext` with a precision of 34 and `ROUND_HALF_EVEN`. -/
def decimalContext : Format := ⟨10, 34, -999999, 999999⟩

def binary64 : Format := ⟨2, 53, -1022, 1023⟩

/-- How the exact result of an operation is rounded, where the context does not refuse it. -/
structure Arithmetic where
  apply : ℚ → Option ℚ

def decimal34 : Arithmetic where
  apply x :=
    if x = 0 then some 0
    else if decimalContext.Overflows (decimalContext.round x) then none
    else some (decimalContext.round x)

/-- Exact rational arithmetic. -/
def exactArithmetic : Arithmetic := ⟨some⟩

variable (arith : Arithmetic)

/-- The refusals at the end of `_mul_div`, `_add` and `_positive_decimal`. -/
def finitePositive (label : String) (result : ℚ) : Except AdjustmentFactorError ℚ := do
  refuseIf (result ≤ 0) (AdjustmentFactorError.mk (label ++ " must remain finite and positive"))
  return result

/-- `_mul_div`. -/
def mulDiv (left numerator denominator : ℚ) (label : String) : Except AdjustmentFactorError ℚ := do
  let product ← orRefuse (arith.apply (left * numerator)) ⟨label ++ " cannot be represented"⟩
  let quotient ← orRefuse (arith.apply (product / denominator)) ⟨label ++ " cannot be represented"⟩
  finitePositive label quotient

/-- `_add`. -/
def add (left right : ℚ) (label : String) : Except AdjustmentFactorError ℚ := do
  let sum ← orRefuse (arith.apply (left + right)) ⟨label ++ " cannot be represented"⟩
  finitePositive label sum

/-- `_positive_decimal`. -/
def positiveDecimal (value : ℚ) (label : String) : Except AdjustmentFactorError ℚ := do
  refuseIf (value ≤ 0) (AdjustmentFactorError.mk (label ++ " must be finite and positive"))
  let normalized ← orRefuse (arith.apply value) ⟨label ++ " cannot be represented"⟩
  refuseIf (normalized ≤ 0) (AdjustmentFactorError.mk (label ++ " must be finite and positive"))
  return normalized

/-! ## Texts -/

/-- The digits after the point of a decimal. -/
def fractionDigits (x : ℚ) : Nat := max (padicValNat 2 x.den) (padicValNat 5 x.den)

/-- `_decimal_text` of a positive decimal. -/
def decimalText (x : ℚ) : String :=
  let places := fractionDigits x
  let scaled := (x * 10 ^ places).num.toNat
  let whole := toString (scaled / 10 ^ places)
  let digits := toString (scaled % 10 ^ places)
  if places = 0 then whole
  else whole ++ "." ++ String.ofList (List.replicate (places - digits.length) '0') ++ digits

/-- The float nearest to a positive decimal, if it is finite and positive. -/
def toFloat (x : ℚ) : Option ℚ :=
  if binary64.Overflows (binary64.round x) ∨ binary64.round x ≤ 0 then none
  else some (binary64.round x)

/-- The bits of a positive float: the biased exponent and the fraction. -/
def binary64Word (x : ℚ) : Nat :=
  let exponent := max (Int.log 2 x) (-1022)
  let significand := (x / 2 ^ (exponent - 52)).num.toNat
  if significand < 2 ^ 52 then significand
  else (exponent + 1023).toNat * 2 ^ 52 + (significand - 2 ^ 52)

/-- `_binary64_bits`. -/
def binary64Bits (value : ℚ) (label : String) : Except AdjustmentFactorError String := do
  let converted ← orRefuse (toFloat value) ⟨label ++ " cannot be represented as positive binary64"⟩
  return String.ofList (Float64.hexChars 16 (binary64Word converted))

end StockApi.Adjustment

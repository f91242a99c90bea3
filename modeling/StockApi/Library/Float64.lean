import StockApi.Library.Text
import Mathlib.Data.BitVec

/-!
# Binary floating-point words

A float as its sixty-four bits: a sign, eleven bits of exponent, and a fraction.
-/

namespace StockApi

structure Float64 where
  word : BitVec 64
deriving DecidableEq

namespace Float64

def exponentBits (x : Float64) : Nat := x.word.toNat / 2 ^ 52 % 2 ^ 11

def fractionBits (x : Float64) : Nat := x.word.toNat % 2 ^ 52

def signBit (x : Float64) : Bool := 2 ^ 63 ≤ x.word.toNat

/-- `math.isfinite(x)`. -/
def isFinite (x : Float64) : Bool := x.exponentBits ≠ 2047

/-- `x == 0.0`, which holds of either zero. -/
def isZero (x : Float64) : Bool := x.exponentBits = 0 && x.fractionBits = 0

/-- `x < 0.0` of a number. -/
def isNegative (x : Float64) : Bool := x.signBit && !x.isZero

/-- `0.0`. -/
def zero : Float64 := ⟨0⟩

/-- `0.0 if x == 0.0 else x`. -/
def canonicalZero (x : Float64) : Float64 := if x.isZero then zero else x

theorem isFinite_canonicalZero {x : Float64} (h : x.isFinite = true) :
    x.canonicalZero.isFinite = true := by
  unfold canonicalZero
  split
  · decide
  · exact h

@[simp] theorem canonicalZero_canonicalZero (x : Float64) :
    x.canonicalZero.canonicalZero = x.canonicalZero := by
  unfold canonicalZero
  split
  · decide
  · rfl

/-! ## Hexadecimal text -/

def hexDigit (n : Nat) : Char := Nat.digitChar (n % 16)

def hexValue (c : Char) : Nat := if c.toNat ≤ 57 then c.toNat - 48 else c.toNat - 87

def hexChars : Nat → Nat → List Char
  | 0, _ => []
  | width + 1, n => hexChars width (n / 16) ++ [hexDigit n]

def hexNumber (text : List Char) : Nat := text.foldl (fun acc c => 16 * acc + hexValue c) 0

/-- `struct.pack(">d", x).hex()`. -/
def hex (x : Float64) : String := String.ofList (hexChars 16 x.word.toNat)

/-- `struct.unpack(">d", bytes.fromhex(text))` of sixteen lowercase digits. -/
def ofHex (text : String) : Option Float64 :=
  if text.toList.length = 16 ∧ text.toList.all Text.hexChar = true then
    some ⟨BitVec.ofNat 64 (hexNumber text.toList)⟩
  else none

theorem hexDigit_facts (n : Nat) :
    Text.hexChar (hexDigit n) = true ∧ hexValue (hexDigit n) = n % 16 := by
  have hAll : ∀ d : Fin 16, Text.hexChar (Nat.digitChar d.val) = true ∧
      hexValue (Nat.digitChar d.val) = d.val := by
    decide
  exact hAll ⟨n % 16, Nat.mod_lt _ (by decide)⟩

@[simp] theorem length_hexChars (width n : Nat) : (hexChars width n).length = width := by
  induction width generalizing n with
  | zero => rfl
  | succ width ih => rw [hexChars, List.length_append, ih, List.length_singleton]

theorem all_hexChars (width n : Nat) : (hexChars width n).all Text.hexChar = true := by
  induction width generalizing n with
  | zero => rfl
  | succ width ih => simp [hexChars, ih, (hexDigit_facts n).1]

theorem hexNumber_hexChars (width n : Nat) (h : n < 16 ^ width) :
    hexNumber (hexChars width n) = n := by
  induction width generalizing n with
  | zero =>
    have hZero : n = 0 := by simpa using h
    simp [hexChars, hexNumber, hZero]
  | succ width ih =>
    have hQuotient : n / 16 < 16 ^ width := by
      rw [pow_succ] at h
      omega
    have hRest := ih (n / 16) hQuotient
    rw [hexNumber] at hRest
    rw [hexChars, hexNumber, List.foldl_append, hRest, List.foldl_cons, List.foldl_nil,
      (hexDigit_facts n).2]
    exact Nat.div_add_mod n 16

@[simp] theorem ofHex_hex (x : Float64) : ofHex x.hex = some x := by
  have hBound : x.word.toNat < 16 ^ 16 := by
    have := x.word.isLt
    omega
  rw [ofHex, hex, String.toList_ofList, if_pos ⟨length_hexChars _ _, all_hexChars _ _⟩,
    hexNumber_hexChars _ _ hBound, BitVec.ofNat_toNat, BitVec.setWidth_eq]

theorem hex_injective : Function.Injective hex := by
  intro x y h
  have hRead := congrArg ofHex h
  rw [ofHex_hex, ofHex_hex] at hRead
  exact Option.some.inj hRead

end Float64

/-- Sixty-four hexadecimal digits in which every byte takes part. -/
def byteDigits (bytes : Bytes) : String :=
  String.ofList (Float64.hexChars 64 (bytes.foldl (fun n b => (257 * n + b.toNat + 1) % (16 ^ 64 - 189)) 0))

theorem isHash_byteDigits (bytes : Bytes) : Text.IsHash ("sha256:" ++ byteDigits bytes) :=
  Text.isHash_append (Float64.length_hexChars 64 _) (Float64.all_hexChars 64 _)

end StockApi

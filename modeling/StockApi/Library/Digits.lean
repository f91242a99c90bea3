import Mathlib.Data.Nat.Digits.Defs
import Mathlib.Data.List.Basic

/-!
# Fixed-width decimal text

Zero-padded numbers as they appear in timestamps, and the reader that inverts them.
-/

namespace StockApi.Digits

/-- The decimal digit of a number below ten. -/
def digit (n : Nat) : Char := Char.ofNat (48 + n % 10)

def digitValue (c : Char) : Option Nat :=
  if 48 ≤ c.toNat ∧ c.toNat ≤ 57 then some (c.toNat - 48) else none

def isDigit (c : Char) : Bool := (digitValue c).isSome

/-- `f"{n:0<width>d}"` for a number that fits its width. -/
def pad : Nat → Nat → List Char
  | 0, _ => []
  | width + 1, n => pad width (n / 10) ++ [digit n]

def readFrom : Nat → List Char → Option Nat
  | acc, [] => some acc
  | acc, c :: rest => (digitValue c).bind fun d => readFrom (10 * acc + d) rest

/-- A nonempty run of ASCII digits. -/
def read (text : List Char) : Option Nat :=
  if text = [] then none else readFrom 0 text

theorem digit_toNat (n : Nat) : (digit n).toNat = 48 + n % 10 := by
  have hd : n % 10 < 10 := Nat.mod_lt _ (by decide)
  have hv : (48 + n % 10).isValidChar := Or.inl (by omega)
  rw [digit, Char.ofNat, dif_pos hv]
  rfl

@[simp] theorem digitValue_digit (n : Nat) : digitValue (digit n) = some (n % 10) := by
  have hd : n % 10 < 10 := Nat.mod_lt _ (by decide)
  rw [digitValue, digit_toNat, if_pos (by omega)]
  congr 1
  omega

@[simp] theorem isDigit_digit (n : Nat) : isDigit (digit n) = true := by simp [isDigit]

theorem digit_ne {c : Char} (n : Nat) (h : c.toNat < 48 ∨ 57 < c.toNat) : digit n ≠ c := by
  intro hEq
  have := digit_toNat n
  rw [hEq] at this
  omega

@[simp] theorem length_pad (width n : Nat) : (pad width n).length = width := by
  induction width generalizing n with
  | zero => rfl
  | succ width ih => simp [pad, ih]

theorem readFrom_append (acc : Nat) (xs ys : List Char) :
    readFrom acc (xs ++ ys) = (readFrom acc xs).bind fun n => readFrom n ys := by
  induction xs generalizing acc with
  | nil => rfl
  | cons c xs ih =>
    cases h : digitValue c with
    | none => simp [readFrom, h]
    | some d => simp [readFrom, h, ih]

theorem readFrom_pad (width n acc : Nat) (h : n < 10 ^ width) :
    readFrom acc (pad width n) = some (acc * 10 ^ width + n) := by
  induction width generalizing n with
  | zero =>
    have hn : n = 0 := by simpa using h
    simp [pad, readFrom, hn]
  | succ width ih =>
    have hq : n / 10 < 10 ^ width := by
      rw [pow_succ] at h
      omega
    rw [pad, readFrom_append, ih _ hq]
    simp only [Option.bind_some, readFrom, digitValue_digit, Option.some.injEq]
    rw [pow_succ]
    have := Nat.div_add_mod n 10
    ring_nf
    omega

theorem read_pad (width n : Nat) (hw : 0 < width) (h : n < 10 ^ width) :
    read (pad width n) = some n := by
  have hne : pad width n ≠ [] := by
    intro hnil
    have := length_pad width n
    rw [hnil] at this
    simp at this
    omega
  rw [read, if_neg hne, readFrom_pad width n 0 h, Nat.zero_mul, Nat.zero_add]

theorem all_isDigit_pad (width n : Nat) : (pad width n).all isDigit = true := by
  induction width generalizing n with
  | zero => rfl
  | succ width ih => simp [pad, ih]

end StockApi.Digits

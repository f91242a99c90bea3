import StockApi.Library.Float64
import StockApi.Library.JsonText

/-!
# Identifiers and whole numbers in text

`str(uuid)` and the constructor `UUID(text)`, which reads many more texts than the canonical one, by
way of `int(text, 16)`.
-/

namespace StockApi

open Text
open JsonText (readSign)

/-- `unicodedata.decimal`, which is the usual value on the ASCII digits and on no other ASCII
character. -/
structure DecimalDigits where
  value : Char → Option Nat
  ascii : ∀ c, c.toNat < 128 → value c = Digits.digitValue c

/-- The digits of ASCII alone. -/
def asciiDigits : DecimalDigits := ⟨Digits.digitValue, fun _ _ => rfl⟩

namespace DecimalDigits

variable (decimal : DecimalDigits)

/-! ## Whole numbers -/

/-- Digits with single underscores between them; a digit precedes the text or it does not. -/
def readDigits (value : Char → Option Nat) (base : Nat) : Nat → Bool → List Char → Option Nat
  | n, digitBefore, [] => if digitBefore then some n else none
  | n, digitBefore, c :: rest =>
    if c = '_' then if digitBefore then readDigits value base n false rest else none
    else (value c).bind fun d => readDigits value base (n * base + d) true rest

/-- `int(text)` of decimal digits. -/
def number (text : List Char) : Option Nat := readDigits decimal.value 10 0 false text

def hexValue (c : Char) : Option Nat :=
  if 'a' ≤ c ∧ c ≤ 'f' then some (c.toNat - 87)
  else if 'A' ≤ c ∧ c ≤ 'F' then some (c.toNat - 55)
  else decimal.value c

def strip (drops : Char → Bool) (text : List Char) : List Char :=
  ((text.dropWhile drops).reverse.dropWhile drops).reverse

def dropBase : List Char → List Char
  | '0' :: x :: rest =>
    if x = 'x' ∨ x = 'X' then if rest.head? = some '_' then rest.tail else rest else '0' :: x :: rest
  | text => text

/-- `int(text, 16)`. -/
def hexNumber (text : List Char) : Option Int :=
  let (negative, magnitude) := readSign (strip isSpace text)
  (readDigits decimal.hexValue 16 0 false (dropBase magnitude)).map fun (n : Nat) =>
    if negative then -(n : Int) else n

variable {decimal}

/-! ## The ASCII spellings -/

theorem value_of_digit {c : Char} {d : Nat} (h : Digits.digitValue c = some d) :
    decimal.value c = some d := by
  have hRange : 48 ≤ c.toNat ∧ c.toNat ≤ 57 := by
    by_contra hNot
    rw [Digits.digitValue, if_neg hNot] at h
    cases h
  rw [decimal.ascii c (by omega), h]

theorem readDigits_of_readFrom {text : List Char} {acc n : Nat}
    (h : Digits.readFrom acc text = some n) :
    readDigits decimal.value 10 acc true text = some n ∧
      ∀ c ∈ text, (decimal.value c).isSome = true := by
  induction text generalizing acc with
  | nil => exact ⟨h, by simp⟩
  | cons c rest ih =>
    obtain ⟨d, hDigit, hRest⟩ := Option.bind_eq_some_iff.mp h
    have hMark : c ≠ '_' := by
      rintro rfl
      cases hDigit
    rw [Nat.mul_comm] at hRest
    obtain ⟨hRead, hAll⟩ := ih hRest
    refine ⟨?_, ?_⟩
    · rw [readDigits, if_neg hMark, value_of_digit hDigit, Option.bind_some, hRead]
    · intro x hMem
      rcases List.mem_cons.mp hMem with rfl | hMem
      · rw [value_of_digit hDigit, Option.isSome_some]
      · exact hAll x hMem

/-- `int(text)` of ASCII digits, all of which `\d` matches. -/
theorem number_of_read {text : List Char} {n : Nat} (h : Digits.read text = some n) :
    decimal.number text = some n ∧ ∀ c ∈ text, (decimal.value c).isSome = true := by
  cases text with
  | nil => cases h
  | cons c rest =>
    rw [Digits.read, if_neg (List.cons_ne_nil c rest)] at h
    obtain ⟨hRead, hAll⟩ : readDigits decimal.value 10 0 true (c :: rest) = some n ∧ _ :=
      readDigits_of_readFrom h
    refine ⟨?_, hAll⟩
    have hMark : c ≠ '_' := by
      rintro rfl
      cases h
    rw [readDigits, if_neg hMark] at hRead
    rw [number, readDigits, if_neg hMark, hRead]

theorem strip_of_all {drops : Char → Bool} {text : List Char}
    (h : ∀ c ∈ text, drops c = false) : strip drops text = text := by
  have hKeep : ∀ cs : List Char, (∀ c ∈ cs, drops c = false) → cs.dropWhile drops = cs := by
    intro cs hCs
    cases cs with
    | nil => rfl
    | cons c rest => rw [List.dropWhile_cons_of_neg (by simp [hCs c])]
  rw [strip, hKeep text h, hKeep text.reverse (by simpa using h), List.reverse_reverse]

theorem hexChar_cases {c : Char} (h : hexChar c = true) :
    (48 ≤ c.toNat ∧ c.toNat ≤ 57) ∨ (97 ≤ c.toNat ∧ c.toNat ≤ 102) := by
  simpa [hexChar, Char.le_def, UInt32.le_iff_toNat_le] using h

theorem hexChar_ne {c d : Char} (h : hexChar c = true) (hd : hexChar d = false) : c ≠ d := by
  rintro rfl
  exact Bool.noConfusion (h.symm.trans hd)

theorem isSpace_hexChar {c : Char} (h : hexChar c = true) : isSpace c = false := by
  rcases hexChar_cases h with h | h <;> simp [isSpace] <;> omega

theorem hexValue_hexChar {c : Char} (h : hexChar c = true) :
    decimal.hexValue c = some (Float64.hexValue c) := by
  have hLetters : ('a' ≤ c ∧ c ≤ 'f' ↔ 97 ≤ c.toNat ∧ c.toNat ≤ 102) := by
    simp [Char.le_def, UInt32.le_iff_toNat_le]
  have hCapitals : ('A' ≤ c ∧ c ≤ 'F' ↔ 65 ≤ c.toNat ∧ c.toNat ≤ 70) := by
    simp [Char.le_def, UInt32.le_iff_toNat_le]
  rcases hexChar_cases h with hDigit | hLetter
  · rw [hexValue, if_neg (by rw [hLetters]; omega), if_neg (by rw [hCapitals]; omega), decimal.ascii c (by omega),
      Digits.digitValue, if_pos hDigit, Float64.hexValue, if_pos hDigit.2]
  · rw [hexValue, if_pos (hLetters.mpr hLetter), Float64.hexValue, if_neg (by omega)]

theorem readDigits_hex {text : List Char} (h : text.all hexChar = true) (n : Nat) :
    readDigits decimal.hexValue 16 n true text =
      some (text.foldl (fun acc c => 16 * acc + Float64.hexValue c) n) := by
  induction text generalizing n with
  | nil => rfl
  | cons c rest ih =>
    rw [List.all_cons, Bool.and_eq_true] at h
    rw [readDigits, if_neg (hexChar_ne h.1 (by decide)), hexValue_hexChar h.1, Option.bind_some, ih h.2,
      List.foldl_cons, Nat.mul_comm]

/-- Lowercase digits stand for their number. -/
theorem hexNumber_hex {text : List Char} (nonempty : text ≠ []) (h : text.all hexChar = true) :
    decimal.hexNumber text = some (Float64.hexNumber text : Int) := by
  obtain ⟨c, rest, rfl⟩ := List.exists_cons_of_ne_nil nonempty
  have hAll := List.all_eq_true.mp h
  have hHead : hexChar c = true := hAll c List.mem_cons_self
  have hSign : readSign (c :: rest) = (false, c :: rest) := by
    simp [readSign, hexChar_ne hHead (d := '-') (by decide), hexChar_ne hHead (d := '+') (by decide)]
  have hBase : dropBase (c :: rest) = c :: rest := by
    cases rest with
    | nil => simp [dropBase]
    | cons x rest =>
      have hx : hexChar x = true := hAll x (by simp)
      have hNot : ¬ (x = 'x' ∨ x = 'X') :=
        not_or.mpr ⟨hexChar_ne hx (by decide), hexChar_ne hx (by decide)⟩
      by_cases hZero : c = '0'
      · rw [hZero, dropBase, if_neg hNot]
      · simp [dropBase, hZero]
  rw [List.all_cons, Bool.and_eq_true] at h
  have hRead : readDigits decimal.hexValue 16 0 false (c :: rest) =
      some (Float64.hexNumber (c :: rest)) := by
    rw [readDigits, if_neg (hexChar_ne hHead (by decide)), hexValue_hexChar hHead, Option.bind_some,
      readDigits_hex h.2, Float64.hexNumber, List.foldl_cons, Nat.mul_comm]
  rw [hexNumber, strip_of_all fun c hMem => isSpace_hexChar (hAll c hMem), hSign]
  dsimp only
  rw [hBase, hRead, Option.map_some]
  rfl

end DecimalDigits

/-! ## Identifiers -/

abbrev Uuid := BitVec 128

namespace Uuid

/-- `text.replace(pattern, "")`, where so many characters are still to be left out. -/
def remove (pattern : List Char) : Nat → List Char → List Char
  | _, [] => []
  | skipped + 1, _ :: rest => remove pattern skipped rest
  | 0, c :: rest =>
    if pattern.isPrefixOf (c :: rest) then remove pattern (pattern.length - 1) rest
    else c :: remove pattern 0 rest

/-- `UUID(text)`. -/
def ofText (decimal : DecimalDigits) (text : String) : Option Uuid := do
  let plain := remove ['u', 'u', 'i', 'd', ':'] 0 (remove ['u', 'r', 'n', ':'] 0 text.toList)
  let digits := (DecimalDigits.strip (fun c => c = '\x7b' ∨ c = '\x7d') plain).filter (· ≠ '-')
  if digits.length = 32 then
    let number ← decimal.hexNumber digits
    if 0 ≤ number ∧ number < 2 ^ 128 then some (BitVec.ofInt 128 number) else none
  else none

def digits (u : Uuid) : List Char := Float64.hexChars 32 u.toNat

def chars (u : Uuid) : List Char :=
  (digits u).take 8 ++ '-' :: (((digits u).drop 8).take 4 ++ '-' :: (((digits u).drop 12).take 4 ++
    '-' :: (((digits u).drop 16).take 4 ++ '-' :: (digits u).drop 20)))

/-- `str(uuid)`. -/
def text (u : Uuid) : String := String.ofList (chars u)

/-! ## The reader inverts the writer -/

theorem remove_of_not_mem {p : Char} {pattern text : List Char} (h : p ∉ text) :
    remove (p :: pattern) 0 text = text := by
  induction text with
  | nil => rfl
  | cons c rest ih =>
    rw [List.mem_cons, not_or] at h
    have hMark : (p :: pattern).isPrefixOf (c :: rest) = false := by
      simp [List.isPrefixOf, h.1]
    rw [remove, hMark, if_neg Bool.false_ne_true, ih h.2]

theorem mem_chars {u : Uuid} {c : Char} (h : c ∈ chars u) : c = '-' ∨ Text.hexChar c = true := by
  have hDigits : ∀ d ∈ digits u, Text.hexChar d = true :=
    List.all_eq_true.mp (Float64.all_hexChars 32 u.toNat)
  simp only [chars, List.mem_append, List.mem_cons] at h
  rcases h with h | h | h | h | h | h | h | h | h
  · exact .inr (hDigits c (List.mem_of_mem_take h))
  · exact .inl h
  · exact .inr (hDigits c (List.mem_of_mem_drop (List.mem_of_mem_take h)))
  · exact .inl h
  · exact .inr (hDigits c (List.mem_of_mem_drop (List.mem_of_mem_take h)))
  · exact .inl h
  · exact .inr (hDigits c (List.mem_of_mem_drop (List.mem_of_mem_take h)))
  · exact .inl h
  · exact .inr (hDigits c (List.mem_of_mem_drop h))

theorem ne_of_mem_chars {u : Uuid} {c d : Char} (h : c ∈ chars u) (hDash : d ≠ '-')
    (hHex : Text.hexChar d = false) : c ≠ d := by
  rintro rfl
  rcases mem_chars h with h | h
  · exact hDash h
  · exact Bool.noConfusion (h.symm.trans hHex)

/-- Without its dashes the text is the digits. -/
theorem filter_chars (u : Uuid) : (chars u).filter (· ≠ '-') = digits u := by
  have hKeep : ∀ cs : List Char, (∀ c ∈ cs, c ∈ digits u) → cs.filter (· ≠ '-') = cs := by
    intro cs hCs
    rw [List.filter_eq_self]
    intro c hMem
    have hHex := List.all_eq_true.mp (Float64.all_hexChars 32 u.toNat) c (hCs c hMem)
    simpa using DecimalDigits.hexChar_ne hHex (by decide)
  have hTake : ∀ i n, (((digits u).drop i).take n).filter (· ≠ '-') = ((digits u).drop i).take n :=
    fun i n => hKeep _ fun c h => List.mem_of_mem_drop (List.mem_of_mem_take h)
  have hSplit : ∀ i n, ((digits u).drop i).take n ++ (digits u).drop (i + n) = (digits u).drop i := by
    intro i n
    rw [← List.drop_drop, List.take_append_drop]
  have hDash : ∀ cs : List Char, ('-' :: cs).filter (· ≠ '-') = cs.filter (· ≠ '-') := fun cs => by simp
  rw [chars, List.filter_append, hDash, List.filter_append, hDash, List.filter_append, hDash,
    List.filter_append, hDash, hTake, hTake, hTake,
    hKeep _ fun c h => List.mem_of_mem_drop h, hKeep _ fun c h => List.mem_of_mem_take h,
    hSplit 16 4, hSplit 12 4, hSplit 8 4, List.take_append_drop]

@[simp] theorem ofText_text (decimal : DecimalDigits) (u : Uuid) :
    ofText decimal (text u) = some u := by
  have hUrn : 'u' ∉ chars u := fun h => ne_of_mem_chars h (by decide) (by decide) rfl
  have hBraces : ∀ c ∈ chars u, decide (c = '\x7b' ∨ c = '\x7d') = false := by
    intro c hMem
    simp [ne_of_mem_chars hMem (d := '\x7b') (by decide) (by decide),
      ne_of_mem_chars hMem (d := '\x7d') (by decide) (by decide)]
  have hLength : (digits u).length = 32 := Float64.length_hexChars 32 u.toNat
  have hNonempty : digits u ≠ [] := by
    intro h
    rw [h] at hLength
    cases hLength
  have hBound : u.toNat < 16 ^ 32 := by
    have := u.isLt
    omega
  have hNumber : decimal.hexNumber (digits u) = some (u.toNat : Int) := by
    rw [DecimalDigits.hexNumber_hex hNonempty (Float64.all_hexChars 32 u.toNat), digits,
      Float64.hexNumber_hexChars 32 u.toNat hBound]
  have hRange : 0 ≤ (u.toNat : Int) ∧ (u.toNat : Int) < 2 ^ 128 := by
    have := u.isLt
    omega
  rw [ofText, text, String.toList_ofList, remove_of_not_mem hUrn, remove_of_not_mem hUrn,
    DecimalDigits.strip_of_all hBraces, filter_chars, if_pos hLength, hNumber, Option.bind_eq_bind,
    Option.bind_some, if_pos hRange, BitVec.ofInt_natCast, BitVec.ofNat_toNat, BitVec.setWidth_eq]

theorem text_injective : Function.Injective text := by
  intro u v h
  have hRead := congrArg (ofText asciiDigits) h
  rw [ofText_text, ofText_text] at hRead
  exact Option.some.inj hRead

end Uuid

end StockApi

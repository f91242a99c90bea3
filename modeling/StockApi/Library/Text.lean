import StockApi.Library.Json

/-!
# Texts and canonical bytes

The character classes of `str.strip` and of the identifiers, and what the standard library
computes on texts and bytes: JSON, SHA-256, Unicode normalization and the shortest decimal of a
float.
-/

namespace StockApi

abbrev Bytes := List UInt8

/-- A JSON document of plain texts. -/
abbrev Document := Json Empty

def Json.plain {δ : Type} (s : String) : Json δ := .str (.plain s)

/-- `json.dumps` with sorted keys and compact separators, `json.loads`, the hexadecimal digest of
SHA-256, `unicodedata.normalize("NFC", ..)` and `Decimal(str(value))` of a float. -/
structure Runtime where
  dumps : Document → Bytes
  loads : Bytes → Option Document
  sha256 : Bytes → String
  nfc : String → String
  shortestDecimal : ℚ → ℚ

/-- `unicodedata.normalize("NFC", ..)`, which leaves a normalized text as it is. -/
structure NormalForm where
  nfc : String → String
  idempotent : ∀ s, nfc (nfc s) = nfc s

namespace Text

/-- `str.isspace` of one character. -/
def isSpace (c : Char) : Bool :=
  let n := c.toNat
  (9 ≤ n && n ≤ 13) || (28 ≤ n && n ≤ 32) || n = 0x85 || n = 0xa0 || n = 0x1680 ||
    (0x2000 ≤ n && n ≤ 0x200a) || n = 0x2028 || n = 0x2029 || n = 0x202f || n = 0x205f || n = 0x3000

/-- `value.strip() == value`. -/
def Trimmed (s : String) : Prop :=
  (∀ c ∈ s.toList.head?, isSpace c = false) ∧ ∀ c ∈ s.toList.getLast?, isSpace c = false

instance (s : String) : Decidable (Trimmed s) := inferInstanceAs (Decidable (_ ∧ _))

theorem trimmed_of_ends {s : String} {first last : Char} (hFirst : s.toList.head? = some first)
    (hLast : s.toList.getLast? = some last) (hFirstSpace : isSpace first = false)
    (hLastSpace : isSpace last = false) : Trimmed s := by
  rw [Trimmed, hFirst, hLast]
  simp [hFirstSpace, hLastSpace]

def symbolChar (c : Char) : Bool :=
  ('A' ≤ c && c ≤ 'Z') || ('0' ≤ c && c ≤ '9') || c = '.' || c = '-' || c = '_' || c = ':'

/-- The pattern `^[A-Z0-9.\-_:]+$`. -/
def IsSymbol (s : String) : Prop := s.toList ≠ [] ∧ s.toList.all symbolChar = true

instance (s : String) : Decidable (IsSymbol s) := inferInstanceAs (Decidable (_ ∧ _))

theorem isSymbol_ofList {cs : List Char} (h : cs ≠ [] ∧ cs.all symbolChar = true) :
    IsSymbol (String.ofList cs) := by
  rw [IsSymbol, String.toList_ofList]
  exact h

def hexChar (c : Char) : Bool := ('0' ≤ c && c ≤ '9') || ('a' ≤ c && c ≤ 'f')

/-- The pattern `^sha256:[0-9a-f]{64}$`. -/
def IsHash (s : String) : Prop :=
  s.toList.take 7 = ['s', 'h', 'a', '2', '5', '6', ':'] ∧ s.toList.length = 71 ∧
    (s.toList.drop 7).all hexChar = true

instance (s : String) : Decidable (IsHash s) := inferInstanceAs (Decidable (_ ∧ _))

theorem isHash_ofList {cs : List Char} (h : cs.take 7 = ['s', 'h', 'a', '2', '5', '6', ':'] ∧
    cs.length = 71 ∧ (cs.drop 7).all hexChar = true) : IsHash (String.ofList cs) := by
  rw [IsHash, String.toList_ofList]
  exact h

theorem isHash_append {digits : List Char} (length : digits.length = 64)
    (hex : digits.all hexChar = true) : IsHash ("sha256:" ++ String.ofList digits) := by
  have hMark : "sha256:" = String.ofList ['s', 'h', 'a', '2', '5', '6', ':'] := rfl
  rw [hMark, ← String.ofList_append]
  exact isHash_ofList ⟨rfl, by simp [length], hex⟩

end Text

end StockApi

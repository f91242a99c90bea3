import StockApi.Library.Documents
import StockApi.Library.Dict

/-!
# The `jsonb` type

What PostgreSQL keeps of a JSON text: numbers as `numeric`, the last of equal keys, objects by the
length of their keys, and no string with a zero character. An absent value is SQL's `NULL`.
-/

namespace StockApi.Jsonb

open JsonText Documents

/-- A number without its exponent, with the digits it had after the point. -/
def numeric (n : NumberText) : NumberText :=
  let width := n.fraction.elim 0 Fraction.width
  let unscaled := n.whole * 10 ^ width + n.fraction.elim 0 Fraction.digits
  let shift := (n.exponent.getD 0) - width
  let scale := (-shift).toNat
  let value := unscaled * 10 ^ shift.toNat
  ⟨n.negative && decide (value ≠ 0), value / 10 ^ scale,
    if h : 0 < scale then
      some ⟨scale, value % 10 ^ scale, h, Nat.mod_lt _ (Nat.pow_pos (by decide))⟩
    else none,
    none⟩

/-- The order in which an object keeps its keys. -/
def keyLE (a b : String × Value) : Prop :=
  a.1.utf8ByteSize < b.1.utf8ByteSize ∨ a.1.utf8ByteSize = b.1.utf8ByteSize ∧ a.1 ≤ b.1

instance (a b : String × Value) : Decidable (keyLE a b) := inferInstanceAs (Decidable (_ ∨ _))

def hasZero (s : String) : Bool := s.toList.any fun c => c = Char.ofNat 0

mutual

def ofValue : Value → Option Value
  | .null => some .null
  | .bool b => some (.bool b)
  | .number n => some (.number (numeric n))
  | .str s => if hasZero s then none else some (.str s)
  | .arr items => (ofItems items).map .arr
  | .obj entries => (ofEntries entries).map fun entries =>
      .obj ((Dict.ofEntries entries).insertionSort keyLE)

def ofItems : List Value → Option (List Value)
  | [] => some []
  | x :: xs => (ofValue x).bind fun x => (ofItems xs).map fun xs => x :: xs

def ofEntries : List (String × Value) → Option (List (String × Value))
  | [] => some []
  | (k, x) :: xs =>
    if hasZero k then none
    else (ofValue x).bind fun x => (ofEntries xs).map fun xs => (k, x) :: xs

end

/-- `convert_from(bytes, 'UTF8')::jsonb`. -/
def read (bytes : Bytes) : Option Value :=
  (decode bytes).bind fun text => (parse text).bind ofValue

/-- `value::text`. -/
def text (value : Value) : String := String.ofList (write [' '] value)

/-! ## Operators -/

/-- `jsonb_typeof(value) = 'object'`. -/
def isObject : Option Value → Bool
  | some (.obj _) => true
  | _ => false

def isArray : Option Value → Bool
  | some (.arr _) => true
  | _ => false

def isNumber : Option Value → Bool
  | some (.number _) => true
  | _ => false

def isString : Option Value → Bool
  | some (.str _) => true
  | _ => false

/-- `value -> key`. -/
def get (value : Option Value) (key : String) : Option Value :=
  match value with
  | some (.obj entries) => entries.lookup key
  | _ => none

/-- `value #>> '{}'`. -/
def asText : Option Value → Option String
  | none => none
  | some .null => none
  | some (.str s) => some s
  | some value => some (text value)

/-- `value ->> key`. -/
def getText (value : Option Value) (key : String) : Option String := asText (get value key)

/-- The keys of an object. -/
def keys : Option Value → List String
  | some (.obj entries) => entries.map Prod.fst
  | _ => []

/-- An object with these keys and no others. -/
def HasKeys (value : Option Value) (schema : List String) : Prop :=
  isObject value = true ∧ (∀ k ∈ schema, k ∈ keys value) ∧ ∀ k ∈ keys value, k ∈ schema

instance (value : Option Value) (schema : List String) : Decidable (HasKeys value schema) :=
  inferInstanceAs (Decidable (_ ∧ _ ∧ _))

/-- `jsonb_array_elements(value)`. -/
def elements : Option Value → List Value
  | some (.arr items) => items
  | _ => []

/-- `value ~ '^[0-9]{1,width}$'`, with the number. -/
def boundedNatural (width : Nat) (value : Option String) : Option Nat :=
  value.bind fun s =>
    if 1 ≤ s.length ∧ s.length ≤ width ∧ s.toList.all Digits.isDigit = true then
      Digits.read s.toList
    else none

end StockApi.Jsonb

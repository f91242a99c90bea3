import Mathlib.Data.Rat.Defs
import Mathlib.Data.Set.Function
import Mathlib.Logic.Function.Basic

/-!
# JSON documents

Documents as `json.loads` returns them. A text is either plain or a content digest, the form
`sha256:` followed by sixty-four hexadecimal digits; digests are values of a type of their own,
so that a hash function into them can be injective. An object is the list of its entries in
key order, which is the order `sort_keys` writes and the reader restores.
-/

namespace StockApi

universe u

variable {δ : Type u}

inductive Text (δ : Type u) where
  | plain (text : String)
  | digest (value : δ)
deriving DecidableEq

inductive Json (δ : Type u) where
  | null
  | bool (value : Bool)
  | int (value : Int)
  | float (value : Rat)
  | str (text : Text δ)
  | arr (items : List (Json δ))
  | obj (entries : List (String × Json δ))

namespace Json

section Equality

variable [DecidableEq δ]

mutual

def decEq : (a b : Json δ) → Decidable (a = b)
  | .null, .null => isTrue rfl
  | .bool a, .bool b => decidable_of_iff (a = b) (by simp)
  | .int a, .int b => decidable_of_iff (a = b) (by simp)
  | .float a, .float b => decidable_of_iff (a = b) (by simp)
  | .str a, .str b => decidable_of_iff (a = b) (by simp)
  | .arr xs, .arr ys => @decidable_of_iff _ (xs = ys) (by simp) (decEqItems xs ys)
  | .obj xs, .obj ys => @decidable_of_iff _ (xs = ys) (by simp) (decEqEntries xs ys)
  | .null, .bool _ | .null, .int _ | .null, .float _ | .null, .str _ | .null, .arr _
  | .null, .obj _ | .bool _, .null | .bool _, .int _ | .bool _, .float _ | .bool _, .str _
  | .bool _, .arr _ | .bool _, .obj _ | .int _, .null | .int _, .bool _ | .int _, .float _
  | .int _, .str _ | .int _, .arr _ | .int _, .obj _ | .float _, .null | .float _, .bool _
  | .float _, .int _ | .float _, .str _ | .float _, .arr _ | .float _, .obj _ | .str _, .null
  | .str _, .bool _ | .str _, .int _ | .str _, .float _ | .str _, .arr _ | .str _, .obj _
  | .arr _, .null | .arr _, .bool _ | .arr _, .int _ | .arr _, .float _ | .arr _, .str _
  | .arr _, .obj _ | .obj _, .null | .obj _, .bool _ | .obj _, .int _ | .obj _, .float _
  | .obj _, .str _ | .obj _, .arr _ => isFalse (by simp)

def decEqItems : (xs ys : List (Json δ)) → Decidable (xs = ys)
  | [], [] => isTrue rfl
  | [], _ :: _ | _ :: _, [] => isFalse (by simp)
  | x :: xs, y :: ys =>
    @decidable_of_iff _ (x = y ∧ xs = ys) (by simp)
      (@instDecidableAnd _ _ (decEq x y) (decEqItems xs ys))

def decEqEntries : (xs ys : List (String × Json δ)) → Decidable (xs = ys)
  | [], [] => isTrue rfl
  | [], _ :: _ | _ :: _, [] => isFalse (by simp)
  | (k, x) :: xs, (l, y) :: ys =>
    @decidable_of_iff _ (k = l ∧ x = y ∧ xs = ys) (by simp [and_assoc])
      (@instDecidableAnd _ _ inferInstance
        (@instDecidableAnd _ _ (decEq x y) (decEqEntries xs ys)))

end

instance : DecidableEq (Json δ) := decEq

end Equality

/-- The number a value stands for in a comparison: `True` is one and `2.0` is two. -/
def number : Json δ → Option Rat
  | .bool b => some (if b then 1 else 0)
  | .int n => some n
  | .float q => some q
  | _ => none

mutual

/-- `a == b`. -/
def pyEq [DecidableEq δ] : Json δ → Json δ → Bool
  | .null, .null => true
  | .str a, .str b => a = b
  | .arr xs, .arr ys => itemsEq xs ys
  | .obj xs, .obj ys => entriesEq xs ys
  | a, b => a.number.isSome && a.number = b.number

def itemsEq [DecidableEq δ] : List (Json δ) → List (Json δ) → Bool
  | [], [] => true
  | x :: xs, y :: ys => pyEq x y && itemsEq xs ys
  | _, _ => false

def entriesEq [DecidableEq δ] : List (String × Json δ) → List (String × Json δ) → Bool
  | [], [] => true
  | (k, x) :: xs, (l, y) :: ys => k = l && pyEq x y && entriesEq xs ys
  | _, _ => false

end

mutual

@[simp] theorem pyEq_refl [DecidableEq δ] : (a : Json δ) → pyEq a a = true
  | .null => by simp [pyEq]
  | .bool b => by simp [pyEq, number]
  | .int n => by simp [pyEq, number]
  | .float q => by simp [pyEq, number]
  | .str t => by simp [pyEq]
  | .arr xs => by simp [pyEq, itemsEq_refl xs]
  | .obj xs => by simp [pyEq, entriesEq_refl xs]

theorem itemsEq_refl [DecidableEq δ] : (xs : List (Json δ)) → itemsEq xs xs = true
  | [] => by simp [itemsEq]
  | x :: xs => by simp [itemsEq, pyEq_refl x, itemsEq_refl xs]

theorem entriesEq_refl [DecidableEq δ] :
    (xs : List (String × Json δ)) → entriesEq xs xs = true
  | [] => by simp [entriesEq]
  | (k, x) :: xs => by simp [entriesEq, pyEq_refl x, entriesEq_refl xs]

end

@[simp] theorem pyEq_str_iff [DecidableEq δ] (a : Json δ) (t : Text δ) :
    pyEq a (.str t) = true ↔ a = .str t := by
  cases a <;> simp [pyEq, number]

/-- `record.get(key)`. -/
def get? (j : Json δ) (key : String) : Option (Json δ) :=
  match j with
  | .obj entries => entries.lookup key
  | _ => none

/-- `record[key]`, read after the keys were compared with the schema. -/
def field (j : Json δ) (key : String) : Json δ := (j.get? key).getD .null

def isObject : Json δ → Bool
  | .obj _ => true
  | _ => false

def keys : Json δ → List String
  | .obj entries => entries.map Prod.fst
  | _ => []

/-- `isinstance(value, dict) and set(value) == schema`. -/
def HasKeys (j : Json δ) (schema : List String) : Prop :=
  j.isObject = true ∧ (∀ k ∈ j.keys, k ∈ schema) ∧ ∀ k ∈ schema, k ∈ j.keys

instance (j : Json δ) (schema : List String) : Decidable (j.HasKeys schema) :=
  inferInstanceAs (Decidable (_ ∧ _ ∧ _))

/-- `isinstance(value, str)`. -/
def text? : Json δ → Option (Text δ)
  | .str t => some t
  | _ => none

/-- `isinstance(value, int) and not isinstance(value, bool)`. -/
def int? : Json δ → Option Int
  | .int n => some n
  | _ => none

def items? : Json δ → Option (List (Json δ))
  | .arr items => some items
  | _ => none

def hashable : Json δ → Bool
  | .arr _ | .obj _ => false
  | _ => true

@[simp] theorem text?_eq_some_iff {j : Json δ} {t : Text δ} : j.text? = some t ↔ j = .str t := by
  cases j <;> simp [text?]

@[simp] theorem int?_eq_some_iff {j : Json δ} {n : Int} : j.int? = some n ↔ j = .int n := by
  cases j <;> simp [int?]

@[simp] theorem items?_eq_some_iff {j : Json δ} {xs : List (Json δ)} :
    j.items? = some xs ↔ j = .arr xs := by
  cases j <;> simp [items?]

end Json

/-- The digest of a value's canonical bytes, `"sha256:" + sha256(canonical).hexdigest()`, and the
text of a digest, by which digests are sorted. -/
class ContentHash (δ : Type u) where
  contentId : Json δ → δ
  hexdigest : δ → String

export ContentHash (contentId)

/-- Distinct documents have distinct digests. -/
def CollisionFree (δ : Type u) [ContentHash δ] : Prop :=
  Function.Injective (contentId : Json δ → δ)

/-- A digest that keeps the document it was taken of. -/
inductive Seal where
  | of (document : Json Seal)

instance : ContentHash Seal where
  contentId := Seal.of
  hexdigest := fun _ => ""

theorem collisionFree_seal : CollisionFree Seal := fun _ _ h => Seal.of.inj h

end StockApi

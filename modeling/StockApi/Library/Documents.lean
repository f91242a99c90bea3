import StockApi.Library.Checked
import StockApi.Library.JsonText
import StockApi.Library.Text
import Mathlib.Data.List.Sort
import Mathlib.Data.String.Basic

/-!
# Documents and their bytes

`json.loads` with `object_pairs_hook` and `json.dumps` with sorted keys and compact separators.
What `dumps` writes of a document whose objects list their keys in order, `loads` returns.
-/

namespace StockApi.Documents

open Checked JsonText

/-! ## Bytes -/

/-- `text.encode("utf-8")`. -/
def encode (text : List Char) : Bytes := (String.ofList text).toByteArray.data.toList

/-- `bytes.decode("utf-8")`. -/
def decode (bytes : Bytes) : Option (List Char) :=
  (String.fromUTF8? ⟨bytes.toArray⟩).map String.toList

theorem decode_encode (text : List Char) : decode (encode text) = some text := by
  have hBytes : (ByteArray.mk (encode text).toArray) = (String.ofList text).toByteArray := by
    simp [encode]
  have hValid : (ByteArray.mk (encode text).toArray).IsValidUTF8 := by
    rw [hBytes]
    exact (String.ofList text).isValidUTF8
  have hString : String.fromUTF8 (ByteArray.mk (encode text).toArray) hValid = String.ofList text :=
    String.toByteArray_inj.mp hBytes
  rw [decode, String.fromUTF8?, dif_pos hValid, hString, Option.map_some, String.toList_ofList]

/-- Only the encoding of a text decodes to it. -/
theorem eq_encode_of_decode {bytes : Bytes} {text : List Char} (h : decode bytes = some text) :
    bytes = encode text := by
  obtain ⟨s, hString, rfl⟩ := Option.map_eq_some_iff.mp h
  rw [String.fromUTF8?] at hString
  split at hString
  · cases hString
    simp [encode, String.fromUTF8]
  · cases hString

/-- A character takes at most four bytes. -/
theorem length_encode_le (text : List Char) : (encode text).length ≤ 4 * text.length := by
  have hBytes : encode text = text.flatMap String.utf8EncodeChar := by
    rw [encode, String.toByteArray_ofList, List.utf8Encode]
    simp
  rw [hBytes]
  induction text with
  | nil => simp
  | cons c rest ih =>
    have hChar := c.utf8Size_le_four
    have hRest : (rest.flatMap String.utf8EncodeChar).length ≤ 4 * rest.length := by
      apply ih
      rw [encode, String.toByteArray_ofList, List.utf8Encode]
      simp
    rw [List.flatMap_cons, List.length_append, String.length_utf8EncodeChar, List.length_cons]
    omega

theorem encode_injective : Function.Injective encode := by
  intro a b h
  have hDecoded := congrArg decode h
  rw [decode_encode, decode_encode] at hDecoded
  exact Option.some.inj hDecoded

/-! ## Reading -/

/-- The interpreter's `float(text)` and `repr(value)`. -/
structure FloatText where
  float : NumberText → Rat
  repr : Rat → NumberText

inductive Unreadable where
  | malformed
  | duplicateKey (key : String)
deriving DecidableEq

/-- The first key that occurs a second time. -/
def repeatedKey : List String → List String → Option String
  | _, [] => none
  | seen, k :: rest => if k ∈ seen then some k else repeatedKey (k :: seen) rest

def sortEntries (entries : List (String × Document)) : List (String × Document) :=
  entries.insertionSort fun a b => a.1 ≤ b.1

def ofNumber (floats : FloatText) (n : NumberText) : Document :=
  match n.int? with
  | some value => .int value
  | none => .float (floats.float n)

mutual

/-- The document of a parsed text, by `object_pairs_hook`. -/
def ofValue (floats : FloatText) : Value → Except Unreadable Document
  | .null => .ok .null
  | .bool b => .ok (.bool b)
  | .number n => .ok (ofNumber floats n)
  | .str s => .ok (.plain s)
  | .arr items => do
    let items ← ofItems floats items
    return .arr items
  | .obj entries => do
    let entries ← ofEntries floats entries
    match repeatedKey [] (entries.map Prod.fst) with
    | some key => .error (.duplicateKey key)
    | none => return .obj (sortEntries entries)

def ofItems (floats : FloatText) : List Value → Except Unreadable (List Document)
  | [] => .ok []
  | x :: xs => do
    let x ← ofValue floats x
    let xs ← ofItems floats xs
    return x :: xs

def ofEntries (floats : FloatText) :
    List (String × Value) → Except Unreadable (List (String × Document))
  | [] => .ok []
  | (k, x) :: xs => do
    let x ← ofValue floats x
    let xs ← ofEntries floats xs
    return (k, x) :: xs

end

/-- `json.loads(bytes.decode("utf-8"), object_pairs_hook=..)`. -/
def loads (floats : FloatText) (bytes : Bytes) : Except Unreadable Document := do
  let text ← orRefuse (decode bytes) .malformed
  let value ← orRefuse (parse text) .malformed
  ofValue floats value

/-! ## Writing -/

def ofInt (n : Int) : NumberText := ⟨decide (n < 0), n.natAbs, none, none⟩

mutual

def toValue (floats : FloatText) : Document → Value
  | .null => .null
  | .bool b => .bool b
  | .int n => .number (ofInt n)
  | .float q => .number (floats.repr q)
  | .str (.plain s) => .str s
  | .arr items => .arr (toItems floats items)
  | .obj entries => .obj (toEntries floats entries)

def toItems (floats : FloatText) : List Document → List Value
  | [] => []
  | x :: xs => toValue floats x :: toItems floats xs

def toEntries (floats : FloatText) : List (String × Document) → List (String × Value)
  | [] => []
  | (k, x) :: xs => (k, toValue floats x) :: toEntries floats xs

end

/-- `json.dumps(document, sort_keys=True, separators=(",", ":"), ensure_ascii=False)` in UTF-8. -/
def dumps (floats : FloatText) (document : Document) : Bytes :=
  encode (write [] (toValue floats document))

/-! ## What is written is read back -/

mutual

/-- No floats, and the keys of every object in ascending order. -/
def Ordered : Document → Prop
  | .float _ => False
  | .arr items => OrderedItems items
  | .obj entries => (entries.map Prod.fst).Pairwise (· < ·) ∧ OrderedEntries entries
  | _ => True

def OrderedItems : List Document → Prop
  | [] => True
  | x :: xs => Ordered x ∧ OrderedItems xs

def OrderedEntries : List (String × Document) → Prop
  | [] => True
  | (_, x) :: xs => Ordered x ∧ OrderedEntries xs

end

mutual

/-- The keys of every object in ascending order, and only floats whose text is read back. -/
def Spelled (floats : FloatText) : Document → Prop
  | .float q => (floats.repr q).int? = none ∧ floats.float (floats.repr q) = q
  | .arr items => SpelledItems floats items
  | .obj entries => (entries.map Prod.fst).Pairwise (· < ·) ∧ SpelledEntries floats entries
  | _ => True

def SpelledItems (floats : FloatText) : List Document → Prop
  | [] => True
  | x :: xs => Spelled floats x ∧ SpelledItems floats xs

def SpelledEntries (floats : FloatText) : List (String × Document) → Prop
  | [] => True
  | (_, x) :: xs => Spelled floats x ∧ SpelledEntries floats xs

end

mutual

theorem Ordered.spelled (floats : FloatText) : (d : Document) → Ordered d → Spelled floats d
  | .null, _ => by simp [Spelled]
  | .bool _, _ => by simp [Spelled]
  | .int _, _ => by simp [Spelled]
  | .float _, h => by simp [Ordered] at h
  | .str (.plain _), _ => by simp [Spelled]
  | .arr items, h => by
    rw [Ordered] at h
    rw [Spelled]
    exact OrderedItems.spelled floats items h
  | .obj entries, h => by
    rw [Ordered] at h
    rw [Spelled]
    exact ⟨h.1, OrderedEntries.spelled floats entries h.2⟩

theorem OrderedItems.spelled (floats : FloatText) :
    (xs : List Document) → OrderedItems xs → SpelledItems floats xs
  | [], _ => by simp [SpelledItems]
  | x :: xs, h => by
    rw [OrderedItems] at h
    rw [SpelledItems]
    exact ⟨Ordered.spelled floats x h.1, OrderedItems.spelled floats xs h.2⟩

theorem OrderedEntries.spelled (floats : FloatText) :
    (xs : List (String × Document)) → OrderedEntries xs → SpelledEntries floats xs
  | [], _ => by simp [SpelledEntries]
  | (_, x) :: xs, h => by
    rw [OrderedEntries] at h
    rw [SpelledEntries]
    exact ⟨Ordered.spelled floats x h.1, OrderedEntries.spelled floats xs h.2⟩

end

theorem repeatedKey_of_nodup {seen keys : List String} (fresh : ∀ k ∈ keys, k ∉ seen)
    (h : keys.Nodup) : repeatedKey seen keys = none := by
  induction keys generalizing seen with
  | nil => rfl
  | cons k rest ih =>
    rw [List.nodup_cons] at h
    rw [repeatedKey, if_neg (fresh k List.mem_cons_self)]
    apply ih
    · intro other hMem hSeen
      rcases List.mem_cons.mp hSeen with rfl | hSeen
      · exact h.1 hMem
      · exact fresh other (List.mem_cons_of_mem _ hMem) hSeen
    · exact h.2

theorem sortEntries_of_ordered {entries : List (String × Document)}
    (h : (entries.map Prod.fst).Pairwise (· < ·)) : sortEntries entries = entries := by
  apply List.Pairwise.insertionSort_eq
  exact (List.pairwise_map.mp h).imp le_of_lt

theorem ofNumber_ofInt (floats : FloatText) (n : Int) : ofNumber floats (ofInt n) = .int n := by
  have hValue : (ofInt n).int? = some n := by
    simp only [NumberText.int?, ofInt, and_self, if_true, decide_eq_true_eq]
    split <;> congr 1 <;> omega
  rw [ofNumber, hValue]

theorem toItems_eq_map (floats : FloatText) (items : List Document) :
    toItems floats items = items.map (toValue floats) := by
  induction items with
  | nil => rfl
  | cons x rest ih => rw [toItems, List.map_cons, ih]

theorem toEntries_keys (floats : FloatText) (entries : List (String × Document)) :
    (toEntries floats entries).map Prod.fst = entries.map Prod.fst := by
  induction entries with
  | nil => rfl
  | cons e rest ih =>
    obtain ⟨k, x⟩ := e
    rw [toEntries, List.map_cons, List.map_cons, ih]

mutual

theorem ofValue_toValue (floats : FloatText) :
    (d : Document) → Spelled floats d → ofValue floats (toValue floats d) = .ok d
  | .null, _ => by rw [toValue, ofValue]
  | .bool b, _ => by rw [toValue, ofValue]
  | .int n, _ => by rw [toValue, ofValue, ofNumber_ofInt]
  | .float q, h => by
    rw [Spelled] at h
    rw [toValue, ofValue, ofNumber, h.1, h.2]
  | .str (.plain s), _ => by rw [toValue, ofValue]; rfl
  | .arr items, h => by
    rw [Spelled] at h
    rw [toValue, ofValue, ofItems_toItems floats items h, ok_bind, pure_eq_ok]
  | .obj entries, h => by
    rw [Spelled] at h
    have hNone : repeatedKey [] (entries.map Prod.fst) = none :=
      repeatedKey_of_nodup (by simp) (h.1.imp ne_of_lt)
    rw [toValue, ofValue, ofEntries_toEntries floats entries h.2, ok_bind, hNone,
      sortEntries_of_ordered h.1]
    rfl

theorem ofItems_toItems (floats : FloatText) :
    (xs : List Document) → SpelledItems floats xs → ofItems floats (toItems floats xs) = .ok xs
  | [], _ => by rw [toItems, ofItems]
  | x :: xs, h => by
    rw [SpelledItems] at h
    rw [toItems, ofItems, ofValue_toValue floats x h.1, ok_bind, ofItems_toItems floats xs h.2, ok_bind,
      pure_eq_ok]

theorem ofEntries_toEntries (floats : FloatText) :
    (xs : List (String × Document)) → SpelledEntries floats xs →
      ofEntries floats (toEntries floats xs) = .ok xs
  | [], _ => by rw [toEntries, ofEntries]
  | (k, x) :: xs, h => by
    rw [SpelledEntries] at h
    rw [toEntries, ofEntries, ofValue_toValue floats x h.1, ok_bind, ofEntries_toEntries floats xs h.2,
      ok_bind, pure_eq_ok]

end

theorem loads_dumps_spelled (floats : FloatText) {d : Document} (spelled : Spelled floats d) :
    loads floats (dumps floats d) = .ok d := by
  rw [loads, dumps, decode_encode, orRefuse_some, ok_bind, parse_write rfl, orRefuse_some, ok_bind,
    ofValue_toValue floats d spelled]

/-- `loads` inverts `dumps`. -/
theorem loads_dumps (floats : FloatText) {d : Document} (ordered : Ordered d) :
    loads floats (dumps floats d) = .ok d :=
  loads_dumps_spelled floats (ordered.spelled floats d)

/-! ## Lists of documents -/

theorem ordered_items {α : Type} {f : α → Document} (h : ∀ a, Ordered (f a)) (values : List α) :
    OrderedItems (values.map f) := by
  induction values with
  | nil => simp [OrderedItems]
  | cons v rest ih => exact ⟨h v, ih⟩

theorem spelled_items {floats : FloatText} {α : Type} {f : α → Document}
    (h : ∀ a, Spelled floats (f a)) (values : List α) : SpelledItems floats (values.map f) := by
  induction values with
  | nil => simp [SpelledItems]
  | cons v rest ih => exact ⟨h v, ih⟩

theorem spelled_elim {floats : FloatText} {α : Type} {f : α → Document}
    (h : ∀ a, Spelled floats (f a)) (o : Option α) : Spelled floats (o.elim .null f) := by
  cases o with
  | none => exact trivial
  | some a => exact h a

theorem ordered_elim {α : Type} {f : α → Document} (h : ∀ a, Ordered (f a)) (o : Option α) :
    Ordered (o.elim .null f) := by
  cases o with
  | none => exact trivial
  | some a => exact h a

theorem mapM_zipIdx {ε α : Type} {write : α → Document}
    {read : Document × Nat → Except ε α} {xs : List α} (h : ∀ x ∈ xs, ∀ i, read (write x, i) = .ok x) (n : Nat) :
    ((xs.map write).zipIdx n).mapM read = .ok xs := by
  induction xs generalizing n with
  | nil => rfl
  | cons x rest ih =>
    rw [List.map_cons, List.zipIdx_cons, List.mapM_cons, h x List.mem_cons_self, ok_bind,
      ih (fun y hMem => h y (List.mem_cons_of_mem _ hMem)), ok_bind, pure_eq_ok]

theorem mapM_written {ε α : Type} {write : α → Document}
    {read : Document → Except ε α}
    (h : ∀ x, read (write x) = .ok x) (xs : List α) : (xs.map write).mapM read = .ok xs := by
  apply mapM_of_forall₂
  rw [List.forall₂_map_left_iff]
  exact List.forall₂_same.mpr fun x _ => h x

theorem dumps_ne_nil (floats : FloatText) (document : Document) : dumps floats document ≠ [] := by
  intro h
  obtain ⟨c, rest, hWrite, -⟩ := JsonText.write_cons [] (toValue floats document)
  have hText : encode (c :: rest) = encode [] := by
    rw [← hWrite]
    exact h
  cases encode_injective hText

end StockApi.Documents

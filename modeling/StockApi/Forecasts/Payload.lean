import StockApi.Forecasts.Schema
import StockApi.Library.Documents

/-!
# The documents of forecast runs

`_json_value` turns what `model_dump` holds into a document: texts in normal form, datetimes in UTC. A
document is wrapped with its format and its version, and read back from its bytes.
-/

namespace StockApi.Forecasts

open Checked CivilTime Documents

/-- A value of `model_dump(mode="python")`; an object lists its entries by key. -/
inductive Payload where
  | null
  | int (value : Int)
  | float (value : Double)
  | text (value : String)
  | datetime (value : ParsedDateTime)
  | date (value : Date)
  | uuid (value : Uuid)
  | list (items : List Payload)
  | dict (entries : List (String × Payload))

/-- A value that may be `None`. -/
def Payload.optional {α : Type} (write : α → Payload) (o : Option α) : Payload := o.elim .null write

/-- `_timestamp`. -/
def timestamp (value : ParsedDateTime) : Except String String := do
  refuseIf (value.offset = none) "canonical timestamps must be timezone-aware"
  let instant ← orRefuse value.toInstant "timestamp cannot be normalized to UTC"
  return instant.timestamp

section Writing

variable (rules : TextRules)

mutual

/-- `_json_value`. -/
def jsonValue : Payload → Except String Document
  | .null => .ok .null
  | .int n => .ok (.int n)
  | .float q => .ok (.float q.1)
  | .text s => .ok (.plain (rules.nfc s))
  | .datetime t => do
    let text ← timestamp t
    return .plain text
  | .date d => .ok (.plain d.isoformat)
  | .uuid u => .ok (.plain u.text)
  | .list items => do
    let items ← jsonItems items
    return .arr items
  | .dict entries => do
    let entries ← jsonEntries [] entries
    return .obj entries

def jsonItems : List Payload → Except String (List Document)
  | [] => .ok []
  | x :: xs => do
    let x ← jsonValue x
    let xs ← jsonItems xs
    return x :: xs

def jsonEntries : List String → List (String × Payload) → Except String (List (String × Document))
  | _, [] => .ok []
  | seen, (key, x) :: xs => do
    let normalizedKey := rules.nfc key
    refuseIf (normalizedKey ∈ seen) "canonical object keys collide after normalization"
    let x ← jsonValue x
    let xs ← jsonEntries (normalizedKey :: seen) xs
    return (normalizedKey, x) :: xs

end

variable (floats : FloatText)

/-- `MAX_CANONICAL_BYTES`. -/
def maxCanonicalBytes : Nat := 4 * 1024 * 1024

/-- `_canonical_document`. -/
def canonicalDocument (format : String) (payload : Payload) : Except String Bytes := do
  let normalized ← jsonValue rules
    (.dict [("format", .text format), ("payload", payload), ("schema_version", .int 1)])
  let canonical := dumps floats normalized
  refuseIf (canonical = [] ∨ maxCanonicalBytes < canonical.length)
    "canonical run payload exceeds the storage limit"
  return canonical

/-- The text of `_parse_document` for what the reader refuses. -/
def unreadable : Unreadable → String
  | .malformed => "canonical payload is not strict UTF-8 JSON"
  | .duplicateKey _ => "canonical payload contains a duplicate JSON key"

/-- `_parse_document`. -/
def parseDocument (canonicalPayload : Bytes) (expectedFormat : String) : Except String Document := do
  refuseIf (canonicalPayload = [] ∨ maxCanonicalBytes < canonicalPayload.length)
    "canonical payload must be non-empty bounded bytes"
  let root ← (loads floats canonicalPayload).mapError unreadable
  refuseIf (root.isObject = false) "document must be a JSON object"
  refuseIf (¬ root.HasKeys ["format", "payload", "schema_version"])
    "canonical document has unknown or missing keys"
  refuseIf (root.field "format" ≠ .plain expectedFormat) "canonical document format is not supported"
  refuseIf (root.field "schema_version" ≠ .int 1) "canonical document schema_version is not supported"
  refuseIf ((root.field "payload").isObject = false) "payload must be a JSON object"
  return root.field "payload"

end Writing

/-! ## The document of a payload -/

/-- The text of an instant in UTC. -/
def utcText (t : ParsedDateTime) : String := (t.toInstant.map Instant.timestamp).getD ""

section Spelling

variable (rules : TextRules)

mutual

/-- The document of a payload whose datetimes have instants. -/
def Payload.document : Payload → Document
  | .null => .null
  | .int n => .int n
  | .float q => .float q.1
  | .text s => .plain (rules.nfc s)
  | .datetime t => .plain (utcText t)
  | .date d => .plain d.isoformat
  | .uuid u => .plain u.text
  | .list items => .arr (documentItems items)
  | .dict entries => .obj (documentEntries entries)

def documentItems : List Payload → List Document
  | [] => []
  | x :: xs => x.document :: documentItems xs

def documentEntries : List (String × Payload) → List (String × Document)
  | [] => []
  | (key, x) :: xs => (key, x.document) :: documentEntries xs

end

end Spelling

mutual

/-- Every datetime has an instant of the years 1 to 9999. -/
def Timed : Payload → Prop
  | .datetime t => t.toInstant.isSome = true
  | .list items => TimedItems items
  | .dict entries => TimedEntries entries
  | _ => True

def TimedItems : List Payload → Prop
  | [] => True
  | x :: xs => Timed x ∧ TimedItems xs

def TimedEntries : List (String × Payload) → Prop
  | [] => True
  | (_, x) :: xs => Timed x ∧ TimedEntries xs

end

/-- Plain keys in ascending order. -/
def KeyOrder (keys : List String) : Prop := keys.Pairwise (· < ·) ∧ ∀ k ∈ keys, IsAscii k

instance (keys : List String) : Decidable (KeyOrder keys) := inferInstanceAs (Decidable (_ ∧ _))

mutual

/-- The keys of every object are plain and in order. -/
def Keyed : Payload → Prop
  | .list items => KeyedItems items
  | .dict entries => KeyOrder (entries.map Prod.fst) ∧ KeyedEntries entries
  | _ => True

def KeyedItems : List Payload → Prop
  | [] => True
  | x :: xs => Keyed x ∧ KeyedItems xs

def KeyedEntries : List (String × Payload) → Prop
  | [] => True
  | (_, x) :: xs => Keyed x ∧ KeyedEntries xs

end

section Laws

variable {rules : TextRules}

theorem timestamp_eq_ok_iff {t : ParsedDateTime} {s : String} :
    timestamp t = .ok s ↔ t.toInstant.isSome = true ∧ s = utcText t := by
  rw [timestamp, refuseIf_bind_eq_ok_iff, orRefuse_bind_eq_ok_iff]
  constructor
  · rintro ⟨-, instant, hInstant, hText⟩
    cases hText
    rw [utcText, hInstant]
    exact ⟨rfl, rfl⟩
  · rintro ⟨hSome, rfl⟩
    obtain ⟨instant, hInstant⟩ := Option.isSome_iff_exists.mp hSome
    refine ⟨(micros_of_toInstant hInstant).2, instant, hInstant, ?_⟩
    rw [utcText, hInstant]
    rfl

/-- A step whose outcome is known. -/
theorem bind_eq_ok_iff_of {α β : Type} {x : Except String α} {P : Prop} {a : α} {b : β}
    {f : α → Except String β} (h : ∀ c, x = .ok c ↔ P ∧ c = a) :
    (x >>= f) = .ok b ↔ P ∧ f a = .ok b := by
  rw [bind_eq_ok_iff]
  constructor
  · rintro ⟨c, hValue, hRest⟩
    obtain ⟨hHolds, rfl⟩ := (h c).mp hValue
    exact ⟨hHolds, hRest⟩
  · rintro ⟨hHolds, hRest⟩
    exact ⟨a, (h a).mpr ⟨hHolds, rfl⟩, hRest⟩

theorem mapM_eq_ok_iff_of {α β : Type} {f : α → Except String β} {P : α → Prop} {g : α → β}
    (h : ∀ a b, f a = .ok b ↔ P a ∧ b = g a) {xs : List α} (ys : List β) :
    xs.mapM f = .ok ys ↔ (∀ a ∈ xs, P a) ∧ ys = xs.map g := by
  induction xs generalizing ys with
  | nil => simp [eq_comm]
  | cons x rest ih =>
    rw [List.mapM_cons, bind_eq_ok_iff_of (h x), bind_eq_ok_iff_of ih, pure_eq_ok, Except.ok.injEq,
      List.forall_mem_cons, List.map_cons, and_assoc, eq_comm (a := ys)]

mutual

theorem jsonValue_eq_ok_iff : (p : Payload) → Keyed p → ∀ d : Document,
    jsonValue rules p = .ok d ↔ Timed p ∧ d = p.document rules
  | .null, _, d => by simp [jsonValue, Timed, Payload.document, eq_comm]
  | .int _, _, d => by simp [jsonValue, Timed, Payload.document, eq_comm]
  | .float _, _, d => by simp [jsonValue, Timed, Payload.document, eq_comm]
  | .text _, _, d => by simp [jsonValue, Timed, Payload.document, eq_comm]
  | .datetime t, _, d => by
    rw [jsonValue, bind_eq_ok_iff_of fun _ => timestamp_eq_ok_iff, Timed, Payload.document, pure_eq_ok,
      Except.ok.injEq, eq_comm (a := d)]
  | .date _, _, d => by simp [jsonValue, Timed, Payload.document, eq_comm]
  | .uuid _, _, d => by simp [jsonValue, Timed, Payload.document, eq_comm]
  | .list items, h, d => by
    rw [Keyed] at h
    rw [jsonValue, bind_eq_ok_iff_of (jsonItems_eq_ok_iff items h), Timed, Payload.document, pure_eq_ok,
      Except.ok.injEq, eq_comm (a := d)]
  | .dict entries, h, d => by
    rw [Keyed] at h
    obtain ⟨⟨hOrder, hAscii⟩, hEntries⟩ := h
    have hRead := jsonEntries_eq_ok_iff entries hEntries [] (fun _ _ => List.not_mem_nil)
      (hOrder.imp ne_of_lt) hAscii
    rw [jsonValue, bind_eq_ok_iff_of hRead, Timed, Payload.document, pure_eq_ok, Except.ok.injEq,
      eq_comm (a := d)]

theorem jsonItems_eq_ok_iff : (xs : List Payload) → KeyedItems xs → ∀ ds : List Document,
    jsonItems rules xs = .ok ds ↔ TimedItems xs ∧ ds = documentItems rules xs
  | [], _, ds => by simp [jsonItems, TimedItems, documentItems, eq_comm]
  | x :: xs, h, ds => by
    rw [KeyedItems] at h
    rw [jsonItems, bind_eq_ok_iff_of (jsonValue_eq_ok_iff x h.1),
      bind_eq_ok_iff_of (jsonItems_eq_ok_iff xs h.2), TimedItems, documentItems, pure_eq_ok,
      Except.ok.injEq, eq_comm (a := ds), and_assoc]

theorem jsonEntries_eq_ok_iff : (xs : List (String × Payload)) → KeyedEntries xs →
    ∀ (seen : List String), (∀ k ∈ xs.map Prod.fst, k ∉ seen) → (xs.map Prod.fst).Nodup →
      (∀ k ∈ xs.map Prod.fst, IsAscii k) → ∀ ds : List (String × Document),
      (jsonEntries rules seen xs = .ok ds ↔ TimedEntries xs ∧ ds = documentEntries rules xs)
  | [], _, _, _, _, _, ds => by simp [jsonEntries, TimedEntries, documentEntries, eq_comm]
  | (k, x) :: xs, h, seen, fresh, distinct, ascii, ds => by
    rw [KeyedEntries] at h
    rw [List.map_cons, List.nodup_cons] at distinct
    have hKey : rules.nfc k = k := rules.nfc_ascii k (ascii k List.mem_cons_self)
    have hRest := jsonEntries_eq_ok_iff xs h.2 (k :: seen) (by
        intro other hMem hSeen
        rcases List.mem_cons.mp hSeen with rfl | hSeen
        · exact distinct.1 hMem
        · exact fresh other (List.mem_cons_of_mem _ hMem) hSeen)
      distinct.2 fun other hMem => ascii other (List.mem_cons_of_mem _ hMem)
    rw [jsonEntries, hKey, refuseIf_of_not (fresh k List.mem_cons_self), ok_bind,
      bind_eq_ok_iff_of (jsonValue_eq_ok_iff x h.1), bind_eq_ok_iff_of hRest, TimedEntries,
      documentEntries, pure_eq_ok, Except.ok.injEq, eq_comm (a := ds), and_assoc]

end

/-! ## Lists and optional values -/

@[simp] theorem document_int (n : Int) : (Payload.int n).document rules = .int n := rfl

@[simp] theorem document_float (q : Double) : (Payload.float q).document rules = .float q.1 := rfl

@[simp] theorem document_text (s : String) :
    (Payload.text s).document rules = .plain (rules.nfc s) := rfl

@[simp] theorem document_datetime (t : ParsedDateTime) :
    (Payload.datetime t).document rules = .plain (utcText t) := rfl

@[simp] theorem document_date (d : Date) : (Payload.date d).document rules = .plain d.isoformat := rfl

@[simp] theorem document_uuid (u : Uuid) : (Payload.uuid u).document rules = .plain u.text := rfl

@[simp] theorem document_dict (entries : List (String × Payload)) :
    (Payload.dict entries).document rules = .obj (documentEntries rules entries) := rfl

theorem documentItems_eq_map (items : List Payload) :
    documentItems rules items = items.map (Payload.document rules) := by
  induction items with
  | nil => rfl
  | cons x rest ih => rw [documentItems, List.map_cons, ih]

theorem timedItems_iff {items : List Payload} : TimedItems items ↔ ∀ p ∈ items, Timed p := by
  induction items with
  | nil => simp [TimedItems]
  | cons x rest ih => rw [TimedItems, ih, List.forall_mem_cons]

theorem keyedItems_iff {items : List Payload} : KeyedItems items ↔ ∀ p ∈ items, Keyed p := by
  induction items with
  | nil => simp [KeyedItems]
  | cons x rest ih => rw [KeyedItems, ih, List.forall_mem_cons]

section Mapped

variable {α : Type} {write : α → Payload}

theorem keyed_list (h : ∀ a, Keyed (write a)) (values : List α) : Keyed (.list (values.map write)) := by
  rw [Keyed, keyedItems_iff, List.forall_mem_map]
  exact fun a _ => h a

theorem keyed_optional (h : ∀ a, Keyed (write a)) (o : Option α) : Keyed (Payload.optional write o) := by
  cases o with
  | none => exact trivial
  | some a => exact h a

theorem timed_list {values : List α} :
    Timed (.list (values.map write)) ↔ ∀ a ∈ values, Timed (write a) := by
  rw [Timed, timedItems_iff, List.forall_mem_map]

theorem timed_optional {o : Option α} :
    Timed (Payload.optional write o) ↔ ∀ a ∈ o, Timed (write a) := by
  cases o <;> simp [Payload.optional, Timed]

theorem document_list (values : List α) : (Payload.list (values.map write)).document rules =
    .arr (values.map fun a => (write a).document rules) := by
  rw [Payload.document, documentItems_eq_map, List.map_map]
  rfl

theorem document_optional (o : Option α) : (Payload.optional write o).document rules =
    o.elim .null fun a => (write a).document rules := by
  cases o <;> rfl

end Mapped

theorem keys_documentEntries (entries : List (String × Payload)) :
    (documentEntries rules entries).map Prod.fst = entries.map Prod.fst := by
  induction entries with
  | nil => rfl
  | cons e rest ih =>
    obtain ⟨k, x⟩ := e
    rw [documentEntries, List.map_cons, List.map_cons, ih]

/-! ## Bytes -/

/-- A payload with its format and its version. -/
def wrapped (format : String) (payload : Document) : Document :=
  .obj [("format", .plain format), ("payload", payload), ("schema_version", .int 1)]

/-- `float(repr(value)) == value`, and the text of a float is no integer's. -/
def ReadsBack (floats : FloatText) : Prop :=
  ∀ q : Double, (floats.repr q.1).int? = none ∧ floats.float (floats.repr q.1) = q.1

variable {floats : FloatText}

theorem canonicalDocument_eq_ok_iff {format : String} {payload : Payload} {b : Bytes}
    (plain : IsAscii format) (keyed : Keyed payload) :
    canonicalDocument rules floats format payload = .ok b ↔
      Timed payload ∧ b = dumps floats (wrapped format (payload.document rules)) ∧
        b.length ≤ maxCanonicalBytes := by
  have hKeyed : Keyed (.dict [("format", .text format), ("payload", payload), ("schema_version", .int 1)]) := by
    exact ⟨(by decide : KeyOrder ["format", "payload", "schema_version"]), trivial, keyed, trivial, trivial⟩
  have hTimed : Timed (.dict [("format", .text format), ("payload", payload), ("schema_version", .int 1)]) ↔
      Timed payload := by
    simp [Timed, TimedEntries]
  have hDocument : (Payload.dict [("format", .text format), ("payload", payload),
      ("schema_version", .int 1)]).document rules = wrapped format (payload.document rules) := by
    simp [Payload.document, documentEntries, wrapped, rules.nfc_ascii format plain]
  rw [canonicalDocument, bind_eq_ok_iff_of (jsonValue_eq_ok_iff _ hKeyed), hTimed, hDocument]
  dsimp only
  rw [refuseIf_bind_eq_ok_iff, pure_eq_ok, Except.ok.injEq, not_or, not_lt]
  constructor
  · rintro ⟨hTimes, ⟨-, hLength⟩, rfl⟩
    exact ⟨hTimes, rfl, hLength⟩
  · rintro ⟨hTimes, rfl, hLength⟩
    exact ⟨hTimes, ⟨dumps_ne_nil floats _, hLength⟩, rfl⟩

mutual

theorem spelled_document (reads : ReadsBack floats) :
    (p : Payload) → Keyed p → Spelled floats (p.document rules)
  | .null, _ => by simp [Payload.document, Spelled]
  | .int _, _ => by simp [Payload.document, Spelled]
  | .float q, _ => by
    rw [Payload.document, Spelled]
    exact reads q
  | .text _, _ => by simp [Payload.document, Spelled, Json.plain]
  | .datetime _, _ => by simp [Payload.document, Spelled, Json.plain]
  | .date _, _ => by simp [Payload.document, Spelled, Json.plain]
  | .uuid _, _ => by simp [Payload.document, Spelled, Json.plain]
  | .list items, h => by
    rw [Keyed] at h
    rw [Payload.document, Spelled]
    exact spelled_documentItems reads items h
  | .dict entries, h => by
    rw [Keyed] at h
    rw [Payload.document, Spelled, keys_documentEntries]
    exact ⟨h.1.1, spelled_documentEntries reads entries h.2⟩

theorem spelled_documentItems (reads : ReadsBack floats) :
    (xs : List Payload) → KeyedItems xs → SpelledItems floats (documentItems rules xs)
  | [], _ => by simp [documentItems, SpelledItems]
  | x :: xs, h => by
    rw [KeyedItems] at h
    rw [documentItems, SpelledItems]
    exact ⟨spelled_document reads x h.1, spelled_documentItems reads xs h.2⟩

theorem spelled_documentEntries (reads : ReadsBack floats) :
    (xs : List (String × Payload)) → KeyedEntries xs → SpelledEntries floats (documentEntries rules xs)
  | [], _ => by simp [documentEntries, SpelledEntries]
  | (_, x) :: xs, h => by
    rw [KeyedEntries] at h
    rw [documentEntries, SpelledEntries]
    exact ⟨spelled_document reads x h.1, spelled_documentEntries reads xs h.2⟩

end

theorem spelled_wrapped {format : String} {d : Document} (spelled : Spelled floats d) :
    Spelled floats (wrapped format d) := by
  exact ⟨(by decide : ["format", "payload", "schema_version"].Pairwise (· < ·)), trivial, spelled, trivial,
    trivial⟩

/-- A document of few characters is within the limit. -/
theorem bounded_of_write {d : Document} (h : (JsonText.write [] (toValue floats d)).length ≤ 1048576) :
    (dumps floats d).length ≤ maxCanonicalBytes := by
  calc (dumps floats d).length ≤ 4 * (JsonText.write [] (toValue floats d)).length := length_encode_le _
    _ ≤ 4 * 1048576 := Nat.mul_le_mul_left 4 h
    _ = maxCanonicalBytes := by rw [maxCanonicalBytes]

/-- Bytes fix the payload they were written for. -/
theorem payload_of_dumps {format : String} {d e : Document} (hD : Spelled floats d) (hE : Spelled floats e)
    (h : dumps floats (wrapped format d) = dumps floats (wrapped format e)) : d = e := by
  have hRead := congrArg (loads floats) h
  rw [loads_dumps_spelled floats (spelled_wrapped hD), loads_dumps_spelled floats (spelled_wrapped hE)] at hRead
  simp only [wrapped, Except.ok.injEq, Json.obj.injEq, List.cons.injEq, Prod.mk.injEq, true_and,
    and_true] at hRead
  exact hRead

theorem parseDocument_dumps {format : String} {d : Document} (spelled : Spelled floats d)
    (object : d.isObject = true) (bounded : (dumps floats (wrapped format d)).length ≤ maxCanonicalBytes) :
    parseDocument floats (dumps floats (wrapped format d)) format = .ok d := by
  have hBytes : ¬ (dumps floats (wrapped format d) = [] ∨
      maxCanonicalBytes < (dumps floats (wrapped format d)).length) := by
    rw [not_or, not_lt]
    exact ⟨dumps_ne_nil floats _, bounded⟩
  have hKeys : (wrapped format d).HasKeys ["format", "payload", "schema_version"] := by
    simp [Json.HasKeys, Json.isObject, Json.keys, wrapped]
  have hFormat : (wrapped format d).field "format" = .plain format := by
    simp [wrapped, Json.field, Json.get?]
  have hVersion : (wrapped format d).field "schema_version" = .int 1 := by
    simp [wrapped, Json.field, Json.get?, List.lookup_cons]
  have hPayload : (wrapped format d).field "payload" = d := by
    simp [wrapped, Json.field, Json.get?, List.lookup_cons]
  rw [parseDocument, refuseIf_of_not hBytes, ok_bind, loads_dumps_spelled floats (spelled_wrapped spelled)]
  rw [Except.mapError, ok_bind, refuseIf_of_not (by simp [wrapped, Json.isObject]), ok_bind,
    refuseIf_of_not (not_not.mpr hKeys), ok_bind, hFormat, refuseIf_of_not (not_not.mpr rfl), ok_bind,
    hVersion, refuseIf_of_not (not_not.mpr rfl), ok_bind, hPayload, refuseIf_of_not (by simp [object]),
    ok_bind, pure_eq_ok]

end Laws

end StockApi.Forecasts

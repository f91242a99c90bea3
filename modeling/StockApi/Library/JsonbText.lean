import StockApi.Library.Jsonb

/-!
# Texts as `jsonb` keeps them

A value whose numbers are plain and whose objects have their keys in ascending order is kept up to
the order of the keys. In the other direction, the text of a stored value determines the value where
the text is no JSON itself, and where it is a short run of digits.
-/

namespace StockApi.Jsonb

open JsonText Documents

/-! ## Values that are kept -/

mutual

/-- Plain numbers, texts without the zero character, distinct ascending keys. -/
def Kept : Value → Prop
  | .number n => numeric n = n
  | .str s => hasZero s = false
  | .arr items => KeptItems items
  | .obj entries => (entries.map Prod.fst).Pairwise (· < ·) ∧ KeptEntries entries
  | _ => True

def KeptItems : List Value → Prop
  | [] => True
  | x :: xs => Kept x ∧ KeptItems xs

def KeptEntries : List (String × Value) → Prop
  | [] => True
  | (k, x) :: xs => hasZero k = false ∧ Kept x ∧ KeptEntries xs

end

mutual

/-- The value with the keys of every object in the order of the type. -/
def stored : Value → Value
  | .null => .null
  | .bool b => .bool b
  | .number n => .number n
  | .str s => .str s
  | .arr items => .arr (storedItems items)
  | .obj entries => .obj ((storedEntries entries).insertionSort keyLE)

def storedItems : List Value → List Value
  | [] => []
  | x :: xs => stored x :: storedItems xs

def storedEntries : List (String × Value) → List (String × Value)
  | [] => []
  | (k, x) :: xs => (k, stored x) :: storedEntries xs

end

theorem numeric_ofInt (n : Int) : numeric (ofInt n) = ofInt n := by
  have hSign : (decide (n < 0) && decide (n.natAbs ≠ 0)) = decide (n < 0) := by
    rcases lt_or_ge n 0 with hNegative | hPositive
    · have hNonzero : n.natAbs ≠ 0 := by omega
      simp [hNonzero]
    · have hNot : ¬ n < 0 := by omega
      simp [hNot]
  simp only [numeric, ofInt, Option.elim_none, pow_zero, Nat.mul_one, Nat.add_zero, Option.getD_none,
    Nat.cast_zero, sub_zero, Int.toNat_zero, neg_zero, Nat.div_one, lt_irrefl, dite_false]
  rw [hSign]

theorem hasZero_of_all {s : String} {allowed : Char → Bool} (h : s.toList.all allowed = true)
    (zero : allowed (Char.ofNat 0) = false) : hasZero s = false := by
  rw [hasZero, List.any_eq_false]
  intro c hc hZero
  rw [decide_eq_true_eq] at hZero
  rw [List.all_eq_true] at h
  have hAllowed := h c hc
  rw [hZero, zero] at hAllowed
  cases hAllowed

theorem hasZero_of_isHash {s : String} (h : Text.IsHash s) : hasZero s = false := by
  obtain ⟨hStart, -, hHex⟩ := h
  have hAll : s.toList.all (fun c => Text.hexChar c || c = 's' || c = 'h' || c = ':') = true := by
    rw [← List.take_append_drop 7 s.toList, hStart, List.all_append, Bool.and_eq_true]
    refine ⟨by decide, ?_⟩
    rw [List.all_eq_true] at hHex ⊢
    intro c hc
    simp [hHex c hc]
  exact hasZero_of_all hAll (by decide)

theorem keys_storedEntries (entries : List (String × Value)) :
    (storedEntries entries).map Prod.fst = entries.map Prod.fst := by
  induction entries with
  | nil => rfl
  | cons e rest ih =>
    obtain ⟨k, x⟩ := e
    rw [storedEntries, List.map_cons, List.map_cons, ih]

theorem lookup_storedEntries (entries : List (String × Value)) (key : String) :
    (storedEntries entries).lookup key = (entries.lookup key).map stored := by
  induction entries with
  | nil => rfl
  | cons e rest ih =>
    obtain ⟨k, x⟩ := e
    rw [storedEntries, List.lookup_cons, List.lookup_cons]
    cases hKey : key == k with
    | true => rfl
    | false => exact ih

mutual

theorem ofValue_kept : (v : Value) → Kept v → ofValue v = some (stored v)
  | .null, _ => by rw [ofValue, stored]
  | .bool b, _ => by rw [ofValue, stored]
  | .number n, h => by
    rw [Kept] at h
    rw [ofValue, stored, h]
  | .str s, h => by
    rw [Kept] at h
    rw [ofValue, stored, h]
    rfl
  | .arr items, h => by
    rw [Kept] at h
    rw [ofValue, stored, ofItems_kept items h, Option.map_some]
  | .obj entries, h => by
    rw [Kept] at h
    have hNodup : ((storedEntries entries).map Prod.fst).Nodup := by
      rw [keys_storedEntries]
      exact h.1.imp ne_of_lt
    rw [ofValue, stored, ofEntries_kept entries h.2, Option.map_some, Dict.ofEntries_of_nodup hNodup]

theorem ofItems_kept : (xs : List Value) → KeptItems xs → ofItems xs = some (storedItems xs)
  | [], _ => by rw [ofItems, storedItems]
  | x :: xs, h => by
    rw [KeptItems] at h
    rw [ofItems, storedItems, ofValue_kept x h.1, Option.bind_some, ofItems_kept xs h.2,
      Option.map_some]

theorem ofEntries_kept :
    (xs : List (String × Value)) → KeptEntries xs → ofEntries xs = some (storedEntries xs)
  | [], _ => by rw [ofEntries, storedEntries]
  | (k, x) :: xs, h => by
    rw [KeptEntries] at h
    rw [ofEntries, storedEntries, h.1, ofValue_kept x h.2.1, Option.bind_some, ofEntries_kept xs h.2.2,
      Option.map_some]
    rfl

end

/-- The order of the keys does not matter to a lookup. -/
theorem lookup_perm {entries entries' : List (String × Value)} (nodup : (entries.map Prod.fst).Nodup)
    (perm : entries'.Perm entries) (key : String) : entries'.lookup key = entries.lookup key := by
  have hNodup : (entries'.map Prod.fst).Nodup := (perm.map Prod.fst).nodup_iff.mpr nodup
  apply Option.ext
  intro value
  rw [Dict.lookup_eq_some_iff hNodup, Dict.lookup_eq_some_iff nodup, perm.mem_iff]

theorem get_stored {entries : List (String × Value)} (ordered : (entries.map Prod.fst).Pairwise (· < ·))
    (key : String) : get (some (stored (.obj entries))) key = (entries.lookup key).map stored := by
  have hNodup : ((storedEntries entries).map Prod.fst).Nodup := by
    rw [keys_storedEntries]
    exact ordered.imp ne_of_lt
  rw [stored, get, lookup_perm hNodup (List.perm_insertionSort _ _), lookup_storedEntries]

theorem mem_keys_stored {entries : List (String × Value)} {key : String} :
    key ∈ keys (some (stored (.obj entries))) ↔ key ∈ entries.map Prod.fst := by
  rw [stored, keys, ← keys_storedEntries entries]
  exact ((List.perm_insertionSort keyLE (storedEntries entries)).map Prod.fst).mem_iff

theorem hasKeys_stored {entries : List (String × Value)} {schema : List String}
    (h : entries.map Prod.fst = schema) : HasKeys (some (stored (.obj entries))) schema := by
  refine ⟨by rw [stored]; rfl, ?_, ?_⟩
  · intro k hk
    rwa [mem_keys_stored, h]
  · intro k hk
    rwa [mem_keys_stored, h] at hk

theorem storedItems_eq_map (items : List Value) : storedItems items = items.map stored := by
  induction items with
  | nil => rfl
  | cons x rest ih => rw [storedItems, List.map_cons, ih]

theorem elements_stored (items : List Value) :
    elements (some (stored (.arr items))) = items.map stored := by
  rw [stored, elements, storedItems_eq_map]

/-! ## Distinct keys -/

mutual

/-- Every object has distinct keys. -/
def Keyed : Value → Prop
  | .arr items => KeyedItems items
  | .obj entries => (entries.map Prod.fst).Nodup ∧ KeyedEntries entries
  | _ => True

def KeyedItems : List Value → Prop
  | [] => True
  | x :: xs => Keyed x ∧ KeyedItems xs

def KeyedEntries : List (String × Value) → Prop
  | [] => True
  | (_, x) :: xs => Keyed x ∧ KeyedEntries xs

end

theorem keyedEntries_iff {entries : List (String × Value)} :
    KeyedEntries entries ↔ ∀ e ∈ entries, Keyed e.2 := by
  induction entries with
  | nil => simp [KeyedEntries]
  | cons e rest ih =>
    obtain ⟨k, x⟩ := e
    rw [KeyedEntries, ih, List.forall_mem_cons]

theorem mem_of_mem_insert {entries : List (String × Value)} {key : String} {value : Value}
    {e : String × Value} (h : e ∈ Dict.insert key value entries) : e ∈ entries ∨ e = (key, value) := by
  induction entries with
  | nil => exact Or.inr (List.mem_singleton.mp h)
  | cons first rest ih =>
    obtain ⟨k, v⟩ := first
    rw [Dict.insert] at h
    split_ifs at h with hKey
    · rcases List.mem_cons.mp h with rfl | hRest
      · exact Or.inr (by rw [hKey])
      · exact Or.inl (List.mem_cons_of_mem _ hRest)
    · rcases List.mem_cons.mp h with rfl | hRest
      · exact Or.inl List.mem_cons_self
      · exact (ih hRest).imp_left (List.mem_cons_of_mem _)

theorem foldl_insert_spec (entries d : List (String × Value)) (nodup : (d.map Prod.fst).Nodup) :
    ((entries.foldl (fun d e => Dict.insert e.1 e.2 d) d).map Prod.fst).Nodup ∧
      ∀ e ∈ entries.foldl (fun d e => Dict.insert e.1 e.2 d) d, e ∈ d ∨ e ∈ entries := by
  induction entries generalizing d with
  | nil => exact ⟨nodup, fun e h => Or.inl h⟩
  | cons first rest ih =>
    obtain ⟨hNodup, hMem⟩ := ih (Dict.insert first.1 first.2 d) (Dict.nodup_insert nodup)
    refine ⟨hNodup, fun e he => ?_⟩
    rcases hMem e he with hInserted | hRest
    · rcases mem_of_mem_insert hInserted with hOld | rfl
      · exact Or.inl hOld
      · exact Or.inr List.mem_cons_self
    · exact Or.inr (List.mem_cons_of_mem _ hRest)

mutual

theorem keyed_ofValue : (v : Value) → ∀ {w : Value}, ofValue v = some w → Keyed w
  | .null, w, h => by rw [ofValue, Option.some.injEq] at h; simp [← h, Keyed]
  | .bool b, w, h => by rw [ofValue, Option.some.injEq] at h; simp [← h, Keyed]
  | .number n, w, h => by rw [ofValue, Option.some.injEq] at h; simp [← h, Keyed]
  | .str s, w, h => by
    rw [ofValue] at h
    split at h
    · cases h
    · rw [Option.some.injEq] at h
      simp [← h, Keyed]
  | .arr items, w, h => by
    rw [ofValue, Option.map_eq_some_iff] at h
    obtain ⟨xs, hItems, rfl⟩ := h
    exact keyed_ofItems items hItems
  | .obj entries, w, h => by
    rw [ofValue, Option.map_eq_some_iff] at h
    obtain ⟨xs, hEntries, rfl⟩ := h
    have hKeyed := keyed_ofEntries entries hEntries
    obtain ⟨hNodup, hMem⟩ := foldl_insert_spec xs [] List.nodup_nil
    have hPerm := List.perm_insertionSort keyLE (Dict.ofEntries xs)
    rw [Keyed, (hPerm.map Prod.fst).nodup_iff, keyedEntries_iff]
    refine ⟨hNodup, fun e he => ?_⟩
    rcases hMem e (hPerm.mem_iff.mp he) with hNone | hOld
    · cases hNone
    · exact keyedEntries_iff.mp hKeyed e hOld

theorem keyed_ofItems : (xs : List Value) → ∀ {ys : List Value}, ofItems xs = some ys → KeyedItems ys
  | [], ys, h => by rw [ofItems, Option.some.injEq] at h; simp [← h, KeyedItems]
  | x :: xs, ys, h => by
    rw [ofItems, Option.bind_eq_some_iff] at h
    obtain ⟨y, hy, h⟩ := h
    rw [Option.map_eq_some_iff] at h
    obtain ⟨rest, hRest, rfl⟩ := h
    exact ⟨keyed_ofValue x hy, keyed_ofItems xs hRest⟩

theorem keyed_ofEntries : (xs : List (String × Value)) → ∀ {ys : List (String × Value)},
    ofEntries xs = some ys → KeyedEntries ys
  | [], ys, h => by rw [ofEntries, Option.some.injEq] at h; simp [← h, KeyedEntries]
  | (k, x) :: xs, ys, h => by
    rw [ofEntries] at h
    split at h
    · cases h
    · rw [Option.bind_eq_some_iff] at h
      obtain ⟨y, hy, h⟩ := h
      rw [Option.map_eq_some_iff] at h
      obtain ⟨rest, hRest, rfl⟩ := h
      exact ⟨keyed_ofValue x hy, keyed_ofEntries xs hRest⟩

end

theorem keyed_read {bytes : Bytes} {value : Value} (h : read bytes = some value) : Keyed value := by
  rw [read, Option.bind_eq_some_iff] at h
  obtain ⟨text, -, h⟩ := h
  rw [Option.bind_eq_some_iff] at h
  obtain ⟨parsed, -, h⟩ := h
  exact keyed_ofValue parsed h

theorem Keyed.get {value : Value} (h : Keyed value) {key : String} {field : Value}
    (found : get (some value) key = some field) : Keyed field := by
  cases value with
  | obj entries =>
    rw [Keyed, keyedEntries_iff] at h
    exact h.2 (key, field) ((Dict.lookup_eq_some_iff h.1).mp found)
  | _ => cases found

/-! ## Texts that determine the value -/

/-- A text that is no JSON is the text of a string. -/
theorem str_of_asText {value : Value} {s : String} (h : asText (some value) = some s)
    (unparsed : parse s.toList = none) : value = .str s := by
  cases value with
  | null => cases h
  | str t =>
    cases h
    rfl
  | _ =>
    rw [asText, Option.some.injEq, text] at h
    · rw [← h, String.toList_ofList, parse_write rfl] at unparsed
      cases unparsed
    all_goals simp

theorem NumberText.eq_ofInt_of_digits {n : NumberText} (h : n.chars.all Digits.isDigit = true) :
    n = ofInt n.whole := by
  obtain ⟨negative, whole, fraction, exponent⟩ := n
  simp only [NumberText.chars, List.all_append, Bool.and_eq_true] at h
  obtain ⟨hSign, -, hFraction, hExponent⟩ := h
  cases negative with
  | true => exact absurd hSign (by simp [Digits.isDigit, Digits.digitValue])
  | false =>
    cases fraction with
    | some f => exact absurd hFraction (by simp [Digits.isDigit, Digits.digitValue])
    | none =>
      cases exponent with
      | some e => exact absurd hExponent (by simp [Digits.isDigit, Digits.digitValue])
      | none =>
        have hSign' : ¬ (whole : Int) < 0 := by omega
        simp [ofInt, hSign']

theorem chars_ofInt (n : Nat) : (ofInt n).chars = natural n := by
  have hSign : ¬ (n : Int) < 0 := by omega
  simp [NumberText.chars, ofInt, hSign]

theorem text_ofInt (n : Nat) : text (.number (ofInt n)) = String.ofList (natural n) := by
  rw [text, write, chars_ofInt]

/-- A number whose text is a run of digits. -/
theorem number_of_asText {value : Value} {s : String} (number : isNumber (some value) = true)
    (h : asText (some value) = some s) (digits : s.toList.all Digits.isDigit = true) :
    ∃ n : Nat, value = .number (ofInt n) ∧ s.toList = natural n := by
  cases value with
  | number t =>
    rw [asText, Option.some.injEq, text, write] at h
    · rw [← h, String.toList_ofList] at digits ⊢
      have hPlain := NumberText.eq_ofInt_of_digits digits
      refine ⟨t.whole, by rw [← hPlain], ?_⟩
      rw [hPlain, chars_ofInt]
      rfl
    all_goals simp
  | _ => cases number

theorem isDigit_of_read {text : List Char} {n : Nat} (h : Digits.read text = some n) :
    text.all Digits.isDigit = true := by
  have hFrom : ∀ (text : List Char) (acc n : Nat), Digits.readFrom acc text = some n →
      text.all Digits.isDigit = true := by
    intro text
    induction text with
    | nil => exact fun _ _ _ => rfl
    | cons c rest ih =>
      intro acc n hRead
      rw [Digits.readFrom, Option.bind_eq_some_iff] at hRead
      obtain ⟨d, hDigit, hRest⟩ := hRead
      rw [List.all_cons, ih _ _ hRest, Digits.isDigit, hDigit]
      rfl
  rw [Digits.read] at h
  split_ifs at h
  exact hFrom text 0 n h

/-- A text that starts like no value. -/
theorem parse_letter {c : Char} (rest : List Char) (space : JsonText.isSpace c = false)
    (start : c ∉ ['"', '[', '\x7b', 'n', 't', 'f', '-']) (digit : Digits.isDigit c = false) :
    parse (c :: rest) = none := by
  simp only [List.mem_cons, List.not_mem_nil, or_false, not_or] at start
  obtain ⟨hQuote, hArray, hObject, hNull, hTrue, hFalse, hMinus⟩ := start
  have hNumber : readNumber (c :: rest) = none := by
    have hDigits : readDigits (c :: rest) = ([], c :: rest) := by
      simp [readDigits, digit]
    simp [readNumber, readMinus, hMinus, readNatural, hDigits, Digits.read]
  rw [parse, readValue, skipSpace_cons space]
  simp [hQuote, hArray, hObject, hNull, hTrue, hFalse, hNumber]

/-- A date is no JSON. -/
theorem parse_date {a b c d : Char} {year : Nat} (rest : List Char)
    (h : Digits.read [a, b, c, d] = some year) : parse (a :: b :: c :: d :: '-' :: rest) = none := by
  have hAll := isDigit_of_read h
  have hFirst : Digits.isDigit a = true := by
    rw [List.all_cons, Bool.and_eq_true] at hAll
    exact hAll.1
  have hOther : ∀ x : Char, Digits.isDigit x = false → a ≠ x := by
    rintro x hx rfl
    rw [hFirst] at hx
    cases hx
  have hSpace : JsonText.isSpace a = false := by
    simp [JsonText.isSpace, hOther ' ' (by decide), hOther '\n' (by decide), hOther '\t' (by decide),
      hOther '\r' (by decide)]
  have hDigits : readDigits (a :: b :: c :: d :: '-' :: rest) = ([a, b, c, d], '-' :: rest) :=
    readDigits_append hAll (by simp [Stops, Digits.isDigit, Digits.digitValue])
  have hNumber : ∀ r, readNumber (a :: b :: c :: d :: '-' :: rest) = some r → r.2 = '-' :: rest := by
    intro r hRead
    simp only [readNumber, readMinus, if_neg (hOther '-' (by decide)), readNatural, hDigits] at hRead
    split_ifs at hRead
    · cases hRead
    · rw [h] at hRead
      simp [readFraction, readExponent] at hRead
      rw [← hRead]
  rw [parse, readValue, skipSpace_cons hSpace]
  simp only [if_neg (hOther _ (show Digits.isDigit '"' = false by decide)),
    if_neg (hOther _ (show Digits.isDigit '[' = false by decide)),
    if_neg (hOther _ (show Digits.isDigit '\x7b' = false by decide)),
    if_neg (hOther _ (show Digits.isDigit 'n' = false by decide)),
    if_neg (hOther _ (show Digits.isDigit 't' = false by decide)),
    if_neg (hOther _ (show Digits.isDigit 'f' = false by decide))]
  cases hRead : readNumber (a :: b :: c :: d :: '-' :: rest) with
  | none => rfl
  | some r =>
    have hDash : skipSpace ('-' :: rest) = '-' :: rest := skipSpace_cons rfl
    simp [hNumber r hRead, hDash]

theorem boundedNatural_eq_some {width n : Nat} {s : Option String} (h : boundedNatural width s = some n) :
    ∃ t, s = some t ∧ t.toList.all Digits.isDigit = true ∧ t.toList.length ≤ width ∧
      Digits.read t.toList = some n := by
  rw [boundedNatural, Option.bind_eq_some_iff] at h
  obtain ⟨t, rfl, h⟩ := h
  split_ifs at h with hBounds
  exact ⟨t, rfl, hBounds.2.2, hBounds.2.1, h⟩

end StockApi.Jsonb

import StockApi.Library.Documents
import StockApi.Library.Timestamp
import StockApi.Library.Uuid

/-!
# The size of a document

The number of bytes that `dumps` writes is a sum over the document, where no text needs an escape.
-/

namespace StockApi.Documents

open CivilTime JsonText Digits Text

/-! ## Characters of one byte -/

/-- A character that a literal holds in one byte. -/
def plainChar (c : Char) : Bool := 32 ≤ c.toNat && c.toNat < 128 && c != '"' && c != '\\'

def PlainText (s : String) : Prop := s.toList.all plainChar = true

instance (s : String) : Decidable (PlainText s) := inferInstanceAs (Decidable (_ = true))

/-- A text of `n` characters of one byte each. -/
def Takes (n : Nat) (text : List Char) : Prop := text.length = n ∧ ∀ c ∈ text, c.toNat < 128

variable {m n : Nat} {a b : List Char}

theorem takes_nil : Takes 0 [] := ⟨rfl, fun _ h => nomatch h⟩

theorem takes_of_all (h : (a.all fun c => decide (c.toNat < 128)) = true) : Takes a.length a :=
  ⟨rfl, fun c hc => of_decide_eq_true (List.all_eq_true.mp h c hc)⟩

theorem Takes.append (ha : Takes m a) (hb : Takes n b) : Takes (m + n) (a ++ b) := by
  refine ⟨by rw [List.length_append, ha.1, hb.1], ?_⟩
  intro c hc
  rcases List.mem_append.mp hc with h | h
  · exact ha.2 c h
  · exact hb.2 c h

theorem Takes.cons {c : Char} (ascii : c.toNat < 128) (ha : Takes m a) : Takes (m + 1) (c :: a) := by
  refine ⟨by rw [List.length_cons, ha.1], ?_⟩
  intro d hd
  rcases List.mem_cons.mp hd with rfl | h
  · exact ascii
  · exact ha.2 d h

theorem Takes.length_encode (h : Takes n a) : (encode a).length = n := by
  have hBytes : encode a = a.flatMap String.utf8EncodeChar := by
    rw [encode, String.toByteArray_ofList, List.utf8Encode]
    simp
  obtain ⟨rfl, hAscii⟩ := h
  rw [hBytes, List.length_flatMap]
  have hOne : a.map (fun c => (String.utf8EncodeChar c).length) = a.map fun _ => 1 := by
    apply List.map_congr_left
    intro c hc
    have hVal : c.val.toNat < 128 := hAscii c hc
    rw [String.length_utf8EncodeChar, Char.utf8Size, if_pos]
    exact UInt32.le_iff_toNat_le.mpr (by exact Nat.le_of_lt_succ hVal)
  rw [hOne, List.map_const', List.sum_replicate_nat, Nat.mul_one]

theorem escape_plain {c : Char} (h : plainChar c = true) : escape c = [c] := by
  simp only [plainChar, Bool.and_eq_true, decide_eq_true_eq, bne_iff_ne, ne_eq] at h
  obtain ⟨⟨⟨hLow, -⟩, hQuote⟩, hSlash⟩ := h
  have hNe : ∀ d : Char, d.toNat < 32 → c ≠ d := by
    rintro d hd rfl
    exact absurd hLow (not_le.mpr hd)
  rw [escape, if_neg hQuote, if_neg hSlash, if_neg (hNe _ (by decide)), if_neg (hNe _ (by decide)),
    if_neg (hNe _ (by decide)), if_neg (hNe _ (by decide)), if_neg (hNe _ (by decide)), if_neg (not_lt.mpr hLow)]

theorem takes_literal {s : String} (plain : PlainText s) : Takes (s.toList.length + 2) (literal s.toList) := by
  have hAll : ∀ c ∈ s.toList, plainChar c = true := List.all_eq_true.mp plain
  have hSame : s.toList.flatMap escape = s.toList := by
    rw [List.flatMap_congr fun c hc => escape_plain (hAll c hc), List.flatMap_singleton']
  have hAscii : ∀ c ∈ s.toList, c.toNat < 128 := by
    intro c hc
    have h := hAll c hc
    simp only [plainChar, Bool.and_eq_true, decide_eq_true_eq] at h
    exact h.1.1.2
  have hText : Takes s.toList.length s.toList := ⟨rfl, hAscii⟩
  rw [literal, hSame]
  exact (hText.append (takes_nil.cons (by decide))).cons (by decide)

/-! ## Numbers -/

theorem takes_of_digits {text : List Char} (h : text.all isDigit = true) : Takes text.length text := by
  refine ⟨rfl, fun c hc => ?_⟩
  have hDigit := List.all_eq_true.mp h c hc
  simp only [isDigit, digitValue] at hDigit
  split_ifs at hDigit with hRange
  · omega
  · cases hDigit

theorem takes_natural (n : Nat) : Takes (natural n).length (natural n) := by
  obtain ⟨width, hPad, -⟩ := naturalFrom_eq_pad (Nat.lt_succ_self n)
  apply takes_of_digits
  rw [natural, hPad]
  exact all_isDigit_pad _ _

theorem takes_integer (n : Int) : Takes (integer n).length (integer n) := by
  refine ⟨rfl, ?_⟩
  rw [integer]
  split_ifs
  · exact ((takes_natural _).cons (by decide)).2
  · exact (takes_natural _).2

theorem takes_chars (x : NumberText) : Takes x.chars.length x.chars := by
  have hSign : Takes (if x.negative then ['-'] else []).length (if x.negative then ['-'] else []) := by
    split_ifs
    · exact takes_nil.cons (by decide)
    · exact takes_nil
  have hFraction : Takes (x.fraction.elim [] fun f => '.' :: pad f.width f.digits).length
      (x.fraction.elim [] fun f => '.' :: pad f.width f.digits) := by
    cases x.fraction with
    | none => exact takes_nil
    | some f => exact (takes_of_digits (all_isDigit_pad _ _)).cons (by decide)
  have hExponent : Takes (x.exponent.elim [] fun e => 'e' :: integer e).length
      (x.exponent.elim [] fun e => 'e' :: integer e) := by
    cases x.exponent with
    | none => exact takes_nil
    | some e => exact (takes_integer e).cons (by decide)
  exact ⟨rfl, (hSign.append ((takes_natural x.whole).append (hFraction.append hExponent))).2⟩

theorem length_natural_le {n width : Nat} (pos : 0 < width) (h : n < 10 ^ width) : (natural n).length ≤ width := by
  obtain ⟨least, hPad, -, hLeast⟩ := naturalFrom_eq_pad (Nat.lt_succ_self n)
  rw [natural, hPad, length_pad]
  rcases hLeast with rfl | hLeast
  · exact pos
  · exact (Nat.pow_lt_pow_iff_right (by decide)).mp (Nat.lt_of_le_of_lt hLeast h)

theorem length_chars_le {n : Int} {width : Nat} (pos : 0 < width) (nonneg : 0 ≤ n) (h : n < 10 ^ width) :
    (ofInt n).chars.length ≤ width := by
  have hSign : ¬ n < 0 := not_lt.mpr nonneg
  have hChars : (ofInt n).chars = natural n.natAbs := by
    simp [ofInt, NumberText.chars, hSign]
  have hAbs : n.natAbs < 10 ^ width := by
    have hCast : ((n.natAbs : Nat) : Int) < ((10 ^ width : Nat) : Int) := by
      rw [Int.natAbs_of_nonneg nonneg]
      exact_mod_cast h
    exact_mod_cast hCast
  rw [hChars]
  exact length_natural_le pos hAbs

/-! ## Documents -/

mutual

def Plain : Document → Prop
  | .str (.plain s) => PlainText s
  | .arr items => PlainItems items
  | .obj entries => PlainEntries entries
  | _ => True

def PlainItems : List Document → Prop
  | [] => True
  | x :: xs => Plain x ∧ PlainItems xs

def PlainEntries : List (String × Document) → Prop
  | [] => True
  | (k, x) :: xs => PlainText k ∧ Plain x ∧ PlainEntries xs

end

variable (floats : FloatText)

mutual

/-- Every item and entry counts with the sign after it. -/
def size : Document → Nat
  | .null => 4
  | .bool true => 4
  | .bool false => 5
  | .int n => (ofInt n).chars.length
  | .float q => (floats.repr q).chars.length
  | .str (.plain s) => s.toList.length + 2
  | .arr items => 1 + max 1 (sizeItems items)
  | .obj entries => 1 + max 1 (sizeEntries entries)

def sizeItems : List Document → Nat
  | [] => 0
  | x :: xs => size x + 1 + sizeItems xs

def sizeEntries : List (String × Document) → Nat
  | [] => 0
  | (k, x) :: xs => k.toList.length + 3 + size x + 1 + sizeEntries xs

end

theorem Takes.of_eq (h : Takes m a) (same : m = n) : Takes n a := same ▸ h

mutual

theorem takes_write : (d : Document) → Plain d → Takes (size floats d) (write [] (toValue floats d))
  | .null, _ => by
    rw [size, toValue, write]
    exact takes_of_all (by decide)
  | .bool true, _ => by
    rw [size, toValue, write]
    exact takes_of_all (by decide)
  | .bool false, _ => by
    rw [size, toValue, write]
    exact takes_of_all (by decide)
  | .int n, _ => by
    rw [size, toValue, write]
    exact takes_chars _
  | .float q, _ => by
    rw [size, toValue, write]
    exact takes_chars _
  | .str (.plain s), h => by
    rw [Plain] at h
    rw [size, toValue, write]
    exact takes_literal h
  | .arr [], _ => by
    rw [size, toValue, toItems, write, sizeItems]
    exact takes_of_all (by decide)
  | .arr (x :: xs), h => by
    rw [Plain, PlainItems] at h
    rw [size, toValue, toItems, write, sizeItems]
    have hText := ((takes_write x h.1).append (takes_writeItems xs h.2)).cons (c := '[') (by decide)
    exact hText.of_eq (by omega)
  | .obj [], _ => by
    rw [size, toValue, toEntries, write, sizeEntries]
    exact takes_of_all (by decide)
  | .obj ((k, x) :: xs), h => by
    rw [Plain, PlainEntries] at h
    rw [size, toValue, toEntries, write, sizeEntries, List.nil_append]
    have hValue := ((takes_write x h.2.1).append (takes_writeEntries xs h.2.2)).cons (c := ':') (by decide)
    have hText := ((takes_literal h.1).append hValue).cons (c := '\x7b') (by decide)
    exact hText.of_eq (by omega)

theorem takes_writeItems : (xs : List Document) → PlainItems xs →
    Takes (sizeItems floats xs + 1) (writeItems [] (toItems floats xs))
  | [], _ => by
    rw [sizeItems, toItems, writeItems]
    exact takes_of_all (by decide)
  | x :: xs, h => by
    rw [PlainItems] at h
    rw [sizeItems, toItems, writeItems, List.nil_append]
    have hText := ((takes_write x h.1).append (takes_writeItems xs h.2)).cons (c := ',') (by decide)
    exact hText.of_eq (by omega)

theorem takes_writeEntries : (xs : List (String × Document)) → PlainEntries xs →
    Takes (sizeEntries floats xs + 1) (writeEntries [] (toEntries floats xs))
  | [], _ => by
    rw [sizeEntries, toEntries, writeEntries]
    exact takes_of_all (by decide)
  | (k, x) :: xs, h => by
    rw [PlainEntries] at h
    rw [sizeEntries, toEntries, writeEntries, List.nil_append, List.nil_append]
    have hValue := ((takes_write x h.2.1).append (takes_writeEntries xs h.2.2)).cons (c := ':') (by decide)
    have hText := ((takes_literal h.1).append hValue).cons (c := ',') (by decide)
    exact hText.of_eq (by omega)

end

theorem length_dumps {d : Document} (plain : Plain d) : (dumps floats d).length = size floats d :=
  (takes_write floats d plain).length_encode

theorem length_escape_le (c : Char) : (escape c).length ≤ 6 := by
  unfold escape
  split_ifs <;> simp

theorem length_literal_le (text : List Char) : (literal text).length ≤ 6 * (text.length + 2) := by
  have hEscaped : (text.flatMap escape).length ≤ 6 * text.length := by
    induction text with
    | nil => exact le_rfl
    | cons c rest ih =>
      have hFirst := length_escape_le c
      rw [List.flatMap_cons, List.length_append, List.length_cons]
      omega
  rw [literal, List.length_cons, List.length_append, List.length_singleton]
  omega

mutual

/-- No character takes more than six when it is escaped. -/
theorem length_write_le : (d : Document) → (write [] (toValue floats d)).length ≤ 6 * size floats d
  | .null => by simp [toValue, write, size]
  | .bool true => by simp [toValue, write, size]
  | .bool false => by simp [toValue, write, size]
  | .int n => by
    rw [toValue, write, size]
    omega
  | .float q => by
    rw [toValue, write, size]
    omega
  | .str (.plain s) => by
    rw [toValue, write, size]
    exact length_literal_le s.toList
  | .arr [] => by simp [toValue, toItems, write, size, sizeItems]
  | .arr (x :: xs) => by
    have hItem := length_write_le x
    have hItems := length_writeItems_le xs
    simp only [toValue, toItems, write, size, sizeItems, List.length_cons, List.length_append]
    omega
  | .obj [] => by simp [toValue, toEntries, write, size, sizeEntries]
  | .obj ((k, x) :: xs) => by
    have hKey := length_literal_le k.toList
    have hValue := length_write_le x
    have hEntries := length_writeEntries_le xs
    simp only [toValue, toEntries, write, size, sizeEntries, List.length_cons, List.length_append, List.length_nil]
    omega

theorem length_writeItems_le : (xs : List Document) →
    (writeItems [] (toItems floats xs)).length ≤ 6 * sizeItems floats xs + 1
  | [] => by simp [toItems, writeItems, sizeItems]
  | x :: xs => by
    have hItem := length_write_le x
    have hItems := length_writeItems_le xs
    simp only [toItems, writeItems, sizeItems, List.length_cons, List.length_append, List.length_nil]
    omega

theorem length_writeEntries_le : (xs : List (String × Document)) →
    (writeEntries [] (toEntries floats xs)).length ≤ 6 * sizeEntries floats xs + 1
  | [] => by simp [toEntries, writeEntries, sizeEntries]
  | (k, x) :: xs => by
    have hKey := length_literal_le k.toList
    have hValue := length_write_le x
    have hEntries := length_writeEntries_le xs
    simp only [toEntries, writeEntries, sizeEntries, List.length_cons, List.length_append, List.length_nil]
    omega

end

/-- A bound that needs no plain texts: six characters for one, four bytes for a character. -/
theorem length_dumps_le (d : Document) : (dumps floats d).length ≤ 24 * size floats d := by
  have hBytes : (dumps floats d).length ≤ 4 * (write [] (toValue floats d)).length := length_encode_le _
  have hWritten := length_write_le floats d
  omega

/-- Items of bounded size. -/
theorem sizeItems_le {items : List Document} {most : Nat} (h : ∀ x ∈ items, size floats x ≤ most) :
    sizeItems floats items ≤ items.length * (most + 1) := by
  induction items with
  | nil => simp [sizeItems]
  | cons x xs ih =>
    obtain ⟨hFirst, hRest⟩ := List.forall_mem_cons.mp h
    have := ih hRest
    rw [sizeItems, List.length_cons, Nat.succ_mul]
    omega

/-! ## Texts without escapes -/

theorem plainItems_of_all {items : List Document} (h : ∀ x ∈ items, Plain x) : PlainItems items := by
  induction items with
  | nil => exact trivial
  | cons x xs ih =>
    obtain ⟨hFirst, hRest⟩ := List.forall_mem_cons.mp h
    exact ⟨hFirst, ih hRest⟩

theorem plainItems_texts {values : List String} (plain : ∀ s ∈ values, PlainText s) :
    PlainItems (values.map .plain) := by
  induction values with
  | nil => exact trivial
  | cons s rest ih =>
    obtain ⟨hFirst, hRest⟩ := List.forall_mem_cons.mp plain
    exact ⟨hFirst, ih hRest⟩

theorem plainChar_of_range {c : Char} (h : 35 ≤ c.toNat ∧ c.toNat < 92 ∨ 93 ≤ c.toNat ∧ c.toNat < 128) :
    plainChar c = true := by
  have hQuote : c ≠ '"' := by
    rintro rfl
    revert h
    decide
  have hSlash : c ≠ '\\' := by
    rintro rfl
    revert h
    decide
  simp only [plainChar, Bool.and_eq_true, decide_eq_true_eq, bne_iff_ne, ne_eq]
  exact ⟨⟨⟨by omega, by omega⟩, hQuote⟩, hSlash⟩

theorem plainChar_between {c low high : Char} (hLow : low ≤ c) (hHigh : c ≤ high)
    (range : 35 ≤ low.toNat ∧ high.toNat < 92 ∨ 93 ≤ low.toNat ∧ high.toNat < 128) : plainChar c = true := by
  have hLowNat : low.toNat ≤ c.toNat := hLow
  have hHighNat : c.toNat ≤ high.toNat := hHigh
  apply plainChar_of_range
  omega

theorem plain_symbol {s : String} (h : IsSymbol s) : PlainText s := by
  apply List.all_eq_true.mpr
  intro c hc
  have hChar := List.all_eq_true.mp h.2 c hc
  simp only [symbolChar, Bool.or_eq_true, Bool.and_eq_true, decide_eq_true_eq] at hChar
  rcases hChar with ((((⟨hLow, hHigh⟩ | ⟨hLow, hHigh⟩) | rfl) | rfl) | rfl) | rfl
  · exact plainChar_between hLow hHigh (by decide)
  · exact plainChar_between hLow hHigh (by decide)
  all_goals decide

theorem plainChar_of_hexChar {c : Char} (h : hexChar c = true) : plainChar c = true := by
  simp only [hexChar, Bool.or_eq_true, Bool.and_eq_true, decide_eq_true_eq] at h
  rcases h with ⟨hLow, hHigh⟩ | ⟨hLow, hHigh⟩
  · exact plainChar_between hLow hHigh (by decide)
  · exact plainChar_between hLow hHigh (by decide)

theorem plain_hash {s : String} (h : IsHash s) : PlainText s := by
  apply List.all_eq_true.mpr
  intro c hc
  rw [← List.take_append_drop 7 s.toList, List.mem_append] at hc
  rcases hc with hc | hc
  · rw [h.1] at hc
    exact List.all_eq_true.mp (by decide : ['s', 'h', 'a', '2', '5', '6', ':'].all plainChar = true) c hc
  · exact plainChar_of_hexChar (List.all_eq_true.mp h.2.2 c hc)

theorem plain_uuid (u : Uuid) : PlainText u.text := by
  apply List.all_eq_true.mpr
  intro c hc
  rw [Uuid.text, String.toList_ofList] at hc
  rcases Uuid.mem_chars hc with rfl | hHex
  · decide
  · exact plainChar_of_hexChar hHex

theorem plain_pad (width n : Nat) : (pad width n).all plainChar = true := by
  apply List.all_eq_true.mpr
  intro c hc
  have hDigit := List.all_eq_true.mp (all_isDigit_pad width n) c hc
  simp only [isDigit, digitValue] at hDigit
  split_ifs at hDigit with hRange
  · exact plainChar_of_range (by omega)
  · cases hDigit

theorem plain_timestamp (t : Instant) : PlainText t.timestamp := by
  rw [PlainText, Instant.timestamp, String.toList_ofList, Instant.timestampChars, Date.isoChars, fullClockChars]
  simp only [List.all_append, List.all_cons, plain_pad, Bool.true_and, Bool.and_true]
  decide

theorem length_timestamp (t : Instant) : t.timestamp.toList.length = 27 := by
  rw [Instant.timestamp, String.toList_ofList, Instant.timestampChars, Date.isoChars, fullClockChars]
  simp [Digits.length_pad]

theorem length_uuid (u : Uuid) : u.text.toList.length = 36 := by
  rw [Uuid.text, String.toList_ofList]
  simp [Uuid.chars, Uuid.digits]

theorem length_isoformat (d : Date) : d.isoformat.toList.length = 10 := by
  rw [Date.isoformat, String.toList_ofList, Date.length_isoChars]

end StockApi.Documents

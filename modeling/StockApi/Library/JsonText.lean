import StockApi.Library.Digits

/-!
# The text of JSON

Values as they are written, the writer and the reader. A number keeps its fraction and exponent, an
object its entries in the order of the text. What is written is read back, whatever follows it.
-/

namespace StockApi.JsonText

open Digits

/-- The digits after the point. -/
structure Fraction where
  width : Nat
  digits : Nat
  nonempty : 0 < width
  fits : digits < 10 ^ width
deriving DecidableEq

/-- A number as the grammar has it. -/
structure NumberText where
  negative : Bool
  whole : Nat
  fraction : Option Fraction
  exponent : Option Int
deriving DecidableEq

/-- The integer that a number without fraction and exponent stands for. -/
def NumberText.int? (n : NumberText) : Option Int :=
  if n.fraction = none ∧ n.exponent = none then some (if n.negative then -n.whole else n.whole)
  else none

inductive Value where
  | null
  | bool (value : Bool)
  | number (value : NumberText)
  | str (text : String)
  | arr (items : List Value)
  | obj (entries : List (String × Value))

/-! ## Numbers -/

/-- The digits of a number, with a bound on their number. -/
def naturalFrom : Nat → Nat → List Char
  | 0, _ => []
  | fuel + 1, n => if n < 10 then [digit n] else naturalFrom fuel (n / 10) ++ [digit n]

def natural (n : Nat) : List Char := naturalFrom (n + 1) n

def integer (n : Int) : List Char :=
  if n < 0 then '-' :: natural n.natAbs else natural n.natAbs

def NumberText.chars (n : NumberText) : List Char :=
  (if n.negative then ['-'] else []) ++ (natural n.whole ++
    ((n.fraction.elim [] fun f => '.' :: pad f.width f.digits) ++
      n.exponent.elim [] fun e => 'e' :: integer e))

/-- A run of digits and what follows. -/
def readDigits (text : List Char) : List Char × List Char :=
  (text.takeWhile isDigit, text.dropWhile isDigit)

/-- `0`, or digits without a leading zero. -/
def readNatural (text : List Char) : Option (Nat × List Char) :=
  let digits := (readDigits text).1
  if 1 < digits.length ∧ digits.head? = some (digit 0) then none
  else (read digits).map fun n => (n, (readDigits text).2)

def readFraction : List Char → Option (Option Fraction × List Char)
  | [] => some (none, [])
  | c :: rest =>
    if c = '.' then
      let digits := (readDigits rest).1
      (read digits).bind fun n =>
        if h : 0 < digits.length ∧ n < 10 ^ digits.length then
          some (some ⟨digits.length, n, h.1, h.2⟩, (readDigits rest).2)
        else none
    else some (none, c :: rest)

def readSign : List Char → Bool × List Char
  | [] => (false, [])
  | c :: rest => if c = '-' then (true, rest) else if c = '+' then (false, rest) else (false, c :: rest)

def readMinus : List Char → Bool × List Char
  | [] => (false, [])
  | c :: rest => if c = '-' then (true, rest) else (false, c :: rest)

def readExponent : List Char → Option (Option Int × List Char)
  | [] => some (none, [])
  | c :: rest =>
    if c = 'e' ∨ c = 'E' then
      let signed := readSign rest
      (read (readDigits signed.2).1).map fun (n : Nat) =>
        (some (if signed.1 then -(n : Int) else n), (readDigits signed.2).2)
    else some (none, c :: rest)

def readNumber (text : List Char) : Option (NumberText × List Char) := do
  let (whole, rest) ← readNatural (readMinus text).2
  let (fraction, rest) ← readFraction rest
  let (exponent, rest) ← readExponent rest
  return (⟨(readMinus text).1, whole, fraction, exponent⟩, rest)

/-! ## Strings -/

def hexDigit (n : Nat) : Char := if n < 10 then digit n else Char.ofNat (87 + n)

/-- A character of a string literal. -/
def escape (c : Char) : List Char :=
  if c = '"' then ['\\', '"']
  else if c = '\\' then ['\\', '\\']
  else if c = '\n' then ['\\', 'n']
  else if c = '\r' then ['\\', 'r']
  else if c = '\t' then ['\\', 't']
  else if c = Char.ofNat 8 then ['\\', 'b']
  else if c = Char.ofNat 12 then ['\\', 'f']
  else if c.toNat < 32 then ['\\', 'u', '0', '0', hexDigit (c.toNat / 16), hexDigit (c.toNat % 16)]
  else [c]

def literal (s : List Char) : List Char := '"' :: (s.flatMap escape ++ ['"'])

def hexValue (c : Char) : Option Nat :=
  if '0' ≤ c ∧ c ≤ '9' then some (c.toNat - 48)
  else if 'a' ≤ c ∧ c ≤ 'f' then some (c.toNat - 87)
  else if 'A' ≤ c ∧ c ≤ 'F' then some (c.toNat - 55)
  else none

def readHex (a b c d : Char) : Option Nat := do
  return (((← hexValue a) * 16 + (← hexValue b)) * 16 + (← hexValue c)) * 16 + (← hexValue d)

def isHighSurrogate (n : Nat) : Bool := 0xd800 ≤ n && n ≤ 0xdbff

def isLowSurrogate (n : Nat) : Bool := 0xdc00 ≤ n && n ≤ 0xdfff

/-- The character after a backslash, when it stands for one. -/
def shortEscape (c : Char) : Option Char :=
  if c = '"' ∨ c = '\\' ∨ c = '/' then some c
  else if c = 'n' then some '\n'
  else if c = 'r' then some '\r'
  else if c = 't' then some '\t'
  else if c = 'b' then some (Char.ofNat 8)
  else if c = 'f' then some (Char.ofNat 12)
  else none

/-- The rest of a string after its opening quote. A lone surrogate is no character. -/
def readLiteral : List Char → Option (List Char × List Char)
  | [] => none
  | c :: rest =>
    if c = '"' then some ([], rest)
    else if c = '\\' then
      match rest with
      | 'u' :: a :: b :: c :: d :: more =>
        (readHex a b c d).bind fun high =>
          if isHighSurrogate high then
            match more with
            | '\\' :: 'u' :: e :: f :: g :: h :: last =>
              (readHex e f g h).bind fun low =>
                if isLowSurrogate low then
                  (readLiteral last).map fun r =>
                    (Char.ofNat (0x10000 + (high - 0xd800) * 0x400 + (low - 0xdc00)) :: r.1, r.2)
                else none
            | _ => none
          else if isLowSurrogate high then none
          else (readLiteral more).map fun r => (Char.ofNat high :: r.1, r.2)
      | e :: more => (shortEscape e).bind fun c => (readLiteral more).map fun r => (c :: r.1, r.2)
      | [] => none
    else if c.toNat < 32 then none
    else (readLiteral rest).map fun r => (c :: r.1, r.2)

/-! ## Values -/

def isSpace (c : Char) : Bool := c = ' ' || c = '\n' || c = '\t' || c = '\r'

def skipSpace (text : List Char) : List Char := text.dropWhile isSpace

mutual

/-- A value, with a gap after each comma and colon. -/
def write (gap : List Char) : Value → List Char
  | .null => ['n', 'u', 'l', 'l']
  | .bool true => ['t', 'r', 'u', 'e']
  | .bool false => ['f', 'a', 'l', 's', 'e']
  | .number n => n.chars
  | .str s => literal s.toList
  | .arr [] => ['[', ']']
  | .arr (x :: xs) => '[' :: (write gap x ++ writeItems gap xs)
  | .obj [] => ['{', '}']
  | .obj ((k, x) :: xs) => '{' :: (literal k.toList ++ ':' :: (gap ++ (write gap x ++ writeEntries gap xs)))

def writeItems (gap : List Char) : List Value → List Char
  | [] => [']']
  | x :: xs => ',' :: (gap ++ (write gap x ++ writeItems gap xs))

def writeEntries (gap : List Char) : List (String × Value) → List Char
  | [] => ['}']
  | (k, x) :: xs =>
    ',' :: (gap ++ (literal k.toList ++ ':' :: (gap ++ (write gap x ++ writeEntries gap xs))))

end

/-- A string literal under some way of escaping its characters. -/
def quoted (esc : Char → List Char) (s : List Char) : List Char := '"' :: (s.flatMap esc ++ ['"'])

mutual

/-- `write` with other escapes in its strings. -/
def spell (esc : Char → List Char) (gap : List Char) : Value → List Char
  | .null => ['n', 'u', 'l', 'l']
  | .bool true => ['t', 'r', 'u', 'e']
  | .bool false => ['f', 'a', 'l', 's', 'e']
  | .number n => n.chars
  | .str s => quoted esc s.toList
  | .arr [] => ['[', ']']
  | .arr (x :: xs) => '[' :: (spell esc gap x ++ spellItems esc gap xs)
  | .obj [] => ['{', '}']
  | .obj ((k, x) :: xs) =>
    '{' :: (quoted esc k.toList ++ ':' :: (gap ++ (spell esc gap x ++ spellEntries esc gap xs)))

def spellItems (esc : Char → List Char) (gap : List Char) : List Value → List Char
  | [] => [']']
  | x :: xs => ',' :: (gap ++ (spell esc gap x ++ spellItems esc gap xs))

def spellEntries (esc : Char → List Char) (gap : List Char) : List (String × Value) → List Char
  | [] => ['}']
  | (k, x) :: xs =>
    ',' :: (gap ++
      (quoted esc k.toList ++ ':' :: (gap ++ (spell esc gap x ++ spellEntries esc gap xs))))

end

mutual

theorem write_eq_spell (gap : List Char) : (v : Value) → write gap v = spell escape gap v
  | .null | .bool true | .bool false | .number _ | .arr [] | .obj [] => by rw [write, spell]
  | .str _ => by
    rw [write, spell]
    rfl
  | .arr (x :: xs) => by rw [write, spell, write_eq_spell gap x, writeItems_eq_spellItems gap xs]
  | .obj ((k, x) :: xs) => by
    rw [write, spell, write_eq_spell gap x, writeEntries_eq_spellEntries gap xs]
    rfl

theorem writeItems_eq_spellItems (gap : List Char) :
    (xs : List Value) → writeItems gap xs = spellItems escape gap xs
  | [] => by rw [writeItems, spellItems]
  | x :: xs => by
    rw [writeItems, spellItems, write_eq_spell gap x, writeItems_eq_spellItems gap xs]

theorem writeEntries_eq_spellEntries (gap : List Char) :
    (xs : List (String × Value)) → writeEntries gap xs = spellEntries escape gap xs
  | [] => by rw [writeEntries, spellEntries]
  | (k, x) :: xs => by
    rw [writeEntries, spellEntries, write_eq_spell gap x, writeEntries_eq_spellEntries gap xs]
    rfl

end

def readWord (word : List Char) (text : List Char) : Option (List Char) :=
  if text.take word.length = word then some (text.drop word.length) else none

/-- A key and its colon. -/
def readKey (text : List Char) : Option (String × List Char) :=
  match skipSpace text with
  | [] => none
  | c :: rest =>
    if c = '"' then
      (readLiteral rest).bind fun r =>
        match skipSpace r.2 with
        | [] => none
        | c :: rest => if c = ':' then some (String.ofList r.1, rest) else none
    else none

mutual

def readValue : Nat → List Char → Option (Value × List Char)
  | 0, _ => none
  | fuel + 1, text =>
    match skipSpace text with
    | [] => none
    | c :: rest =>
      if c = '"' then (readLiteral rest).map fun r => (.str (String.ofList r.1), r.2)
      else if c = '[' then
        if (skipSpace rest).head? = some ']' then some (.arr [], (skipSpace rest).drop 1)
        else do
          let (x, rest) ← readValue fuel rest
          let (xs, rest) ← readItems fuel rest
          return (.arr (x :: xs), rest)
      else if c = '{' then
        if (skipSpace rest).head? = some '}' then some (.obj [], (skipSpace rest).drop 1)
        else do
          let (x, rest) ← readEntry fuel rest
          let (xs, rest) ← readEntries fuel rest
          return (.obj (x :: xs), rest)
      else if c = 'n' then (readWord ['u', 'l', 'l'] rest).map fun rest => (.null, rest)
      else if c = 't' then (readWord ['r', 'u', 'e'] rest).map fun rest => (.bool true, rest)
      else if c = 'f' then (readWord ['a', 'l', 's', 'e'] rest).map fun rest => (.bool false, rest)
      else (readNumber (c :: rest)).map fun r => (.number r.1, r.2)

def readItems : Nat → List Char → Option (List Value × List Char)
  | 0, _ => none
  | fuel + 1, text =>
    match skipSpace text with
    | [] => none
    | c :: rest =>
      if c = ']' then some ([], rest)
      else if c = ',' then do
        let (x, rest) ← readValue fuel rest
        let (xs, rest) ← readItems fuel rest
        return (x :: xs, rest)
      else none

def readEntry : Nat → List Char → Option ((String × Value) × List Char)
  | 0, _ => none
  | fuel + 1, text => do
    let (k, rest) ← readKey text
    let (x, rest) ← readValue fuel rest
    return ((k, x), rest)

def readEntries : Nat → List Char → Option (List (String × Value) × List Char)
  | 0, _ => none
  | fuel + 1, text =>
    match skipSpace text with
    | [] => none
    | c :: rest =>
      if c = '}' then some ([], rest)
      else if c = ',' then do
        let (x, rest) ← readEntry fuel rest
        let (xs, rest) ← readEntries fuel rest
        return (x :: xs, rest)
      else none

end

/-- A document is one value and nothing else. -/
def parse (text : List Char) : Option Value := do
  let (value, rest) ← readValue (text.length + 1) text
  if skipSpace rest = [] then some value else none

/-! ## Numbers are read back -/

/-- What follows does not start with such a character. -/
def Stops (p : Char → Bool) (rest : List Char) : Prop := ∀ c ∈ rest.head?, p c = false

theorem readDigits_append {digits rest : List Char} (h : digits.all isDigit = true)
    (stops : Stops isDigit rest) : readDigits (digits ++ rest) = (digits, rest) := by
  have hAll := List.all_eq_true.mp h
  have hTake : rest.takeWhile isDigit = [] := by
    cases rest with
    | nil => rfl
    | cons c rest => simp [stops c rfl]
  have hDrop : rest.dropWhile isDigit = rest := by
    cases rest with
    | nil => rfl
    | cons c rest => simp [stops c rfl]
  rw [readDigits, List.takeWhile_append_of_pos hAll, List.dropWhile_append_of_pos hAll, hTake, hDrop,
    List.append_nil]

theorem naturalFrom_eq_pad {fuel n : Nat} (h : n < fuel) :
    ∃ width, naturalFrom fuel n = pad (width + 1) n ∧ n < 10 ^ (width + 1) ∧
      (width = 0 ∨ 10 ^ width ≤ n) := by
  induction fuel generalizing n with
  | zero => cases h
  | succ fuel ih =>
    by_cases hSmall : n < 10
    · exact ⟨0, by simp [naturalFrom, hSmall, pad], by simpa using hSmall, Or.inl rfl⟩
    · obtain ⟨width, hPad, hLt, hLeast⟩ := @ih (n / 10) (by omega)
      refine ⟨width + 1, ?_, ?_, Or.inr ?_⟩
      · rw [naturalFrom, if_neg hSmall, hPad]
        rfl
      · rw [pow_succ]
        omega
      · rw [pow_succ]
        rcases hLeast with rfl | hLeast
        · omega
        · omega

theorem head?_pad (width n : Nat) : (pad (width + 1) n).head? = some (digit (n / 10 ^ width)) := by
  induction width generalizing n with
  | zero => simp [pad]
  | succ width ih =>
    rw [pad, List.head?_append, ih, Option.some_or, Nat.div_div_eq_div_mul, pow_succ, mul_comm]

theorem digit_eq_zero {n : Nat} (h : digit n = digit 0) : n % 10 = 0 := by
  have hValue := congrArg digitValue h
  rw [digitValue_digit, digitValue_digit] at hValue
  exact Option.some.inj hValue

theorem readNatural_natural (n : Nat) {rest : List Char} (stops : Stops isDigit rest) :
    readNatural (natural n ++ rest) = some (n, rest) := by
  obtain ⟨width, hPad, hLt, hLeast⟩ := naturalFrom_eq_pad (Nat.lt_succ_self n)
  have hDigits : readDigits (natural n ++ rest) = (pad (width + 1) n, rest) := by
    rw [natural, hPad]
    exact readDigits_append (all_isDigit_pad _ _) stops
  have hLeading : ¬ (1 < (pad (width + 1) n).length ∧ (pad (width + 1) n).head? = some (digit 0)) := by
    rintro ⟨hLong, hZero⟩
    rw [length_pad] at hLong
    rw [head?_pad, Option.some.injEq] at hZero
    have hQuotient : n / 10 ^ width < 10 := by
      apply Nat.div_lt_of_lt_mul
      rwa [← pow_succ]
    have hNone : n / 10 ^ width = 0 := (Nat.mod_eq_of_lt hQuotient).symm.trans (digit_eq_zero hZero)
    rcases hLeast with rfl | hLeast
    · omega
    · have := Nat.div_pos hLeast (by positivity)
      omega
  simp only [readNatural, hDigits]
  rw [if_neg hLeading, read_pad _ _ (Nat.succ_pos _) hLt]
  rfl

theorem read_natural (n : Nat) : read (natural n) = some n := by
  obtain ⟨width, hPad, hLt, -⟩ := naturalFrom_eq_pad (Nat.lt_succ_self n)
  rw [natural, hPad, read_pad _ _ (Nat.succ_pos _) hLt]

theorem natural_cons (n : Nat) : ∃ d rest, natural n = digit d :: rest := by
  obtain ⟨width, hPad, -⟩ := naturalFrom_eq_pad (Nat.lt_succ_self n)
  have hHead := head?_pad width n
  rw [← hPad, ← natural] at hHead
  obtain ⟨rest, hRest⟩ := List.head?_eq_some_iff.mp hHead
  exact ⟨_, rest, hRest⟩

theorem readExponent_chars (e : Int) {rest : List Char} (stops : Stops isDigit rest) :
    readExponent ('e' :: (integer e ++ rest)) = some (some e, rest) := by
  obtain ⟨width, hPad, hLt, -⟩ := naturalFrom_eq_pad (Nat.lt_succ_self e.natAbs)
  have hDigits : readDigits (natural e.natAbs ++ rest) = (pad (width + 1) e.natAbs, rest) := by
    rw [natural, hPad]
    exact readDigits_append (all_isDigit_pad _ _) stops
  have hRead := read_pad _ _ (Nat.succ_pos width) hLt
  by_cases hSign : e < 0
  · have hSigned : readSign (integer e ++ rest) = (true, natural e.natAbs ++ rest) := by
      rw [integer, if_pos hSign]
      rfl
    have hValue : -(e.natAbs : Int) = e := by omega
    simp only [readExponent, hSigned, hDigits, hRead, Option.map_some, true_or, if_true, hValue]
  · have hSigned : readSign (integer e ++ rest) = (false, natural e.natAbs ++ rest) := by
      obtain ⟨d, tail, hCons⟩ := natural_cons e.natAbs
      have hMinus : digit d ≠ '-' := digit_ne d (by decide)
      have hPlus : digit d ≠ '+' := digit_ne d (by decide)
      rw [integer, if_neg hSign, hCons, List.cons_append, readSign, if_neg hMinus, if_neg hPlus]
    have hValue : (e.natAbs : Int) = e := by omega
    simp only [readExponent, hSigned, hDigits, hRead, Option.map_some, true_or, if_true,
      Bool.false_eq_true, if_false, hValue]

/-- A character that would go on with a number. -/
def continuesNumber (c : Char) : Bool := isDigit c || c = '.' || c = 'e' || c = 'E'

theorem Stops.isDigit {rest : List Char} (stops : Stops continuesNumber rest) :
    Stops Digits.isDigit rest := by
  intro c hc
  have := stops c hc
  simp only [continuesNumber, Bool.or_eq_false_iff] at this
  exact this.1.1.1

theorem readExponent_stop {rest : List Char} (stops : Stops continuesNumber rest) :
    readExponent rest = some (none, rest) := by
  cases rest with
  | nil => rfl
  | cons c rest =>
    have := stops c rfl
    simp only [continuesNumber, Bool.or_eq_false_iff, decide_eq_false_iff_not] at this
    rw [readExponent, if_neg (not_or.mpr ⟨this.1.2, this.2⟩)]

theorem readExponent_written (e : Option Int) {rest : List Char} (stops : Stops continuesNumber rest) :
    readExponent ((e.elim [] fun e => 'e' :: integer e) ++ rest) = some (e, rest) := by
  cases e with
  | none => exact readExponent_stop stops
  | some e => exact readExponent_chars e stops.isDigit

theorem readFraction_written (f : Option Fraction) (e : Option Int) {rest : List Char}
    (stops : Stops continuesNumber rest) :
    let last := (e.elim [] fun e => 'e' :: integer e) ++ rest
    readFraction ((f.elim [] fun f => '.' :: pad f.width f.digits) ++ last) = some (f, last) := by
  intro last
  have hLast : Stops Digits.isDigit last ∧ ∀ c ∈ last.head?, c ≠ '.' := by
    cases e with
    | none =>
      refine ⟨stops.isDigit, ?_⟩
      intro c hc
      have := stops c hc
      simp only [continuesNumber, Bool.or_eq_false_iff, decide_eq_false_iff_not] at this
      exact this.1.1.2
    | some e => exact ⟨by simp [last, Stops]; decide, by simp [last]⟩
  cases f with
  | none =>
    change readFraction last = some (none, last)
    cases hCons : last with
    | nil => rfl
    | cons c tail => rw [readFraction, if_neg (hLast.2 c (by simp [hCons]))]
  | some f =>
    have hDigits : readDigits (pad f.width f.digits ++ last) = (pad f.width f.digits, last) :=
      readDigits_append (all_isDigit_pad _ _) hLast.1
    change readFraction ('.' :: (pad f.width f.digits ++ last)) = _
    rw [readFraction, if_pos rfl]
    simp only [hDigits, length_pad, read_pad _ _ f.nonempty f.fits, Option.bind_some,
      dif_pos (And.intro f.nonempty f.fits)]

theorem readNumber_chars (n : NumberText) {rest : List Char} (stops : Stops continuesNumber rest) :
    readNumber (n.chars ++ rest) = some (n, rest) := by
  obtain ⟨negative, whole, fraction, exponent⟩ := n
  set last := (exponent.elim [] fun e => 'e' :: integer e) ++ rest with hLast
  set tail := (fraction.elim [] fun f => '.' :: pad f.width f.digits) ++ last with hTail
  have hExponent := readExponent_written exponent stops
  have hFraction := readFraction_written fraction exponent stops
  have hStops : Stops Digits.isDigit tail := by
    cases fraction with
    | some f => simp [hTail, Stops]; decide
    | none =>
      cases exponent with
      | some e => simp [hTail, hLast, Stops]; decide
      | none => exact stops.isDigit
  have hWhole := readNatural_natural whole hStops
  have hMinus : readMinus ((NumberText.mk negative whole fraction exponent).chars ++ rest) =
      (negative, natural whole ++ tail) := by
    cases negative with
    | true => simp [NumberText.chars, readMinus, hTail, hLast]
    | false =>
      obtain ⟨d, digits, hCons⟩ := natural_cons whole
      have hNot : digit d ≠ '-' := digit_ne d (by decide)
      simp [NumberText.chars, readMinus, hTail, hLast, hCons, hNot]
  rw [readNumber, hMinus]
  simp only [hWhole, Option.bind_eq_bind, Option.bind_some]
  rw [hTail, hFraction, Option.bind_some, hExponent]
  rfl

/-! ## Strings are read back -/

theorem hexValue_hexDigit {n : Nat} (h : n < 16) : hexValue (hexDigit n) = some n := by
  have hAll : ∀ i : Fin 16, hexValue (hexDigit i) = some i.val := by decide
  exact hAll ⟨n, h⟩

theorem readHex_control {n : Nat} (h : n < 32) :
    readHex '0' '0' (hexDigit (n / 16)) (hexDigit (n % 16)) = some n := by
  have hZero : hexValue '0' = some 0 := by decide
  have hHigh : hexValue (hexDigit (n / 16)) = some (n / 16) := hexValue_hexDigit (by omega)
  have hLow : hexValue (hexDigit (n % 16)) = some (n % 16) := hexValue_hexDigit (by omega)
  simp only [readHex, hZero, hHigh, hLow, Option.bind_eq_bind, Option.bind_some]
  congr 1
  omega

theorem readLiteral_quote (rest : List Char) : readLiteral ('"' :: rest) = some ([], rest) := by
  rw [readLiteral.eq_def]
  rfl

theorem readLiteral_plain {c : Char} (rest : List Char) (hQuote : c ≠ '"') (hSlash : c ≠ '\\')
    (hControl : ¬ c.toNat < 32) :
    readLiteral (c :: rest) = (readLiteral rest).map fun r => (c :: r.1, r.2) := by
  rw [readLiteral.eq_def]
  simp only [if_neg hQuote, if_neg hSlash, if_neg hControl]

theorem readLiteral_short {e c : Char} (rest : List Char) (hUnit : e ≠ 'u')
    (hShort : shortEscape e = some c) :
    readLiteral ('\\' :: e :: rest) = (readLiteral rest).map fun r => (c :: r.1, r.2) := by
  rw [readLiteral.eq_def]
  simp [hUnit, hShort]

theorem readLiteral_unit {a b c d : Char} {n : Nat} (rest : List Char) (hHex : readHex a b c d = some n)
    (hControl : n < 32) :
    readLiteral ('\\' :: 'u' :: a :: b :: c :: d :: rest) =
      (readLiteral rest).map fun r => (Char.ofNat n :: r.1, r.2) := by
  have hHigh : isHighSurrogate n = false := by
    simp only [isHighSurrogate, Bool.and_eq_false_iff, decide_eq_false_iff_not]
    omega
  have hLow : isLowSurrogate n = false := by
    simp only [isLowSurrogate, Bool.and_eq_false_iff, decide_eq_false_iff_not]
    omega
  rw [readLiteral.eq_def]
  simp [hHex, hHigh, hLow]

/-- One escaped character is read back. -/
theorem readLiteral_escape (c : Char) (rest : List Char) :
    readLiteral (escape c ++ rest) = (readLiteral rest).map fun r => (c :: r.1, r.2) := by
  unfold escape
  split_ifs with h1 h2 h3 h4 h5 h6 h7 h8
  · subst h1
    exact readLiteral_short rest (by decide) (by decide)
  · subst h2
    exact readLiteral_short rest (by decide) (by decide)
  · subst h3
    exact readLiteral_short rest (by decide) (by decide)
  · subst h4
    exact readLiteral_short rest (by decide) (by decide)
  · subst h5
    exact readLiteral_short rest (by decide) (by decide)
  · subst h6
    exact readLiteral_short rest (by decide) (by decide)
  · subst h7
    exact readLiteral_short rest (by decide) (by decide)
  · have hUnit := readLiteral_unit rest (readHex_control h8) h8
    rwa [Char.ofNat_toNat] at hUnit
  · exact readLiteral_plain rest h1 h2 h8

/-- Each character is read back from its escape. -/
def Reads (esc : Char → List Char) : Prop :=
  ∀ c rest, readLiteral (esc c ++ rest) = (readLiteral rest).map fun r => (c :: r.1, r.2)

theorem readLiteral_quoted {esc : Char → List Char} (reads : Reads esc) (s rest : List Char) :
    readLiteral (s.flatMap esc ++ '"' :: rest) = some (s, rest) := by
  induction s with
  | nil => exact readLiteral_quote rest
  | cons c s ih => rw [List.flatMap_cons, List.append_assoc, reads, ih, Option.map_some]

/-! ## Values are read back -/

theorem skipSpace_gap {gap rest : List Char} (h : gap.all isSpace = true) :
    skipSpace (gap ++ rest) = skipSpace rest :=
  List.dropWhile_append_of_pos (List.all_eq_true.mp h)

theorem skipSpace_cons {c : Char} {rest : List Char} (h : isSpace c = false) :
    skipSpace (c :: rest) = c :: rest := by
  simp [skipSpace, h]

/-- A value starts with neither a space nor a closing bracket. -/
def Starts (c : Char) : Prop := isSpace c = false ∧ c ≠ ']' ∧ c ≠ '}'

theorem starts_digit (n : Nat) : Starts (digit n) := by
  have hSpace : digit n ≠ ' ' := digit_ne n (by decide)
  have hLine : digit n ≠ '\n' := digit_ne n (by decide)
  have hTab : digit n ≠ '\t' := digit_ne n (by decide)
  have hReturn : digit n ≠ '\r' := digit_ne n (by decide)
  exact ⟨by simp [isSpace, hSpace, hLine, hTab, hReturn], digit_ne n (by decide),
    digit_ne n (by decide)⟩

theorem NumberText.chars_cons (n : NumberText) :
    ∃ c rest, n.chars = c :: rest ∧ (c = '-' ∨ ∃ d, c = digit d) := by
  obtain ⟨negative, whole, fraction, exponent⟩ := n
  cases negative with
  | true => exact ⟨'-', _, rfl, Or.inl rfl⟩
  | false =>
    obtain ⟨d, rest, hCons⟩ := natural_cons whole
    have hChars : (NumberText.mk false whole fraction exponent).chars = digit d :: (rest ++
        ((fraction.elim [] fun f => '.' :: pad f.width f.digits) ++
          exponent.elim [] fun e => 'e' :: integer e)) := by
      simp [chars, hCons]
    exact ⟨_, _, hChars, Or.inr ⟨d, rfl⟩⟩

theorem spell_cons (esc : Char → List Char) (gap : List Char) (v : Value) : ∃ c rest, spell esc gap v = c :: rest ∧
    Starts c := by
  cases v with
  | null => exact ⟨_, _, by rw [spell], by decide, by decide, by decide⟩
  | bool b =>
    cases b with
    | true => exact ⟨_, _, by rw [spell], by decide, by decide, by decide⟩
    | false => exact ⟨_, _, by rw [spell], by decide, by decide, by decide⟩
  | number n =>
    obtain ⟨c, rest, hCons, hStart⟩ := n.chars_cons
    refine ⟨c, rest, by rw [spell, hCons], ?_⟩
    rcases hStart with rfl | ⟨d, rfl⟩
    · exact ⟨by decide, by decide, by decide⟩
    · exact starts_digit d
  | str s => exact ⟨_, _, by rw [spell, quoted], by decide, by decide, by decide⟩
  | arr items =>
    cases items with
    | nil => exact ⟨_, _, by rw [spell], by decide, by decide, by decide⟩
    | cons x xs => exact ⟨_, _, by rw [spell], by decide, by decide, by decide⟩
  | obj entries =>
    cases entries with
    | nil => exact ⟨_, _, by rw [spell], by decide, by decide, by decide⟩
    | cons x xs => exact ⟨_, _, by rw [spell], by decide, by decide, by decide⟩

theorem skipSpace_spell (esc : Char → List Char) (gap : List Char) (v : Value) (rest : List Char) :
    skipSpace (spell esc gap v ++ rest) = spell esc gap v ++ rest := by
  obtain ⟨c, tail, hCons, hSpace, -⟩ := spell_cons esc gap v
  rw [hCons, List.cons_append, skipSpace_cons hSpace]

theorem stops_items (esc : Char → List Char) (gap rest : List Char) (xs : List Value) :
    Stops continuesNumber (spellItems esc gap xs ++ rest) := by
  cases xs <;> simp [spellItems, Stops] <;> decide

theorem stops_entries (esc : Char → List Char) (gap rest : List Char) (xs : List (String × Value)) :
    Stops continuesNumber (spellEntries esc gap xs ++ rest) := by
  cases xs <;> simp [spellEntries, Stops] <;> decide

/-- The dispatch of the reader on the first character of a number. -/
theorem readValue_number (fuel : Nat) (n : NumberText) {rest : List Char}
    (stops : Stops continuesNumber rest) :
    readValue (fuel + 1) (n.chars ++ rest) = some (.number n, rest) := by
  obtain ⟨c, tail, hCons, hStart⟩ := n.chars_cons
  have hWritten : skipSpace (n.chars ++ rest) = c :: (tail ++ rest) := by
    have hSpell : spell escape [] (.number n) = n.chars := by rw [spell]
    rw [← hSpell, skipSpace_spell, hSpell, hCons, List.cons_append]
  have hRead : readNumber (c :: (tail ++ rest)) = some (n, rest) := by
    rw [← List.cons_append, ← hCons]
    exact readNumber_chars n stops
  have hOther : c ≠ '"' ∧ c ≠ '[' ∧ c ≠ '{' ∧ c ≠ 'n' ∧ c ≠ 't' ∧ c ≠ 'f' := by
    rcases hStart with rfl | ⟨d, rfl⟩
    · decide
    · exact ⟨digit_ne d (by decide), digit_ne d (by decide), digit_ne d (by decide),
        digit_ne d (by decide), digit_ne d (by decide), digit_ne d (by decide)⟩
  obtain ⟨h1, h2, h3, h4, h5, h6⟩ := hOther
  rw [readValue, hWritten]
  simp only [if_neg h1, if_neg h2, if_neg h3, if_neg h4, if_neg h5, if_neg h6, hRead, Option.map_some]

theorem readValue_gap {gap : List Char} (spaces : gap.all isSpace = true) (fuel : Nat) (rest : List Char) :
    readValue fuel (gap ++ rest) = readValue fuel rest := by
  cases fuel with
  | zero => rfl
  | succ fuel => rw [readValue, readValue, skipSpace_gap spaces]

theorem readEntry_gap {gap : List Char} (spaces : gap.all isSpace = true) (fuel : Nat) (rest : List Char) :
    readEntry fuel (gap ++ rest) = readEntry fuel rest := by
  cases fuel with
  | zero => rfl
  | succ fuel => rw [readEntry, readEntry, readKey, readKey, skipSpace_gap spaces]

theorem quoted_length (esc : Char → List Char) (s : List Char) :
    (quoted esc s).length = (s.flatMap esc).length + 2 := by
  simp [quoted]

theorem not_closed (esc : Char → List Char) (gap : List Char) (v : Value) (rest : List Char) :
    (skipSpace (spell esc gap v ++ rest)).head? ≠ some ']' ∧
      (skipSpace (spell esc gap v ++ rest)).head? ≠ some '}' := by
  obtain ⟨c, tail, hCons, -, hArray, hObject⟩ := spell_cons esc gap v
  rw [skipSpace_spell, hCons]
  exact ⟨fun h => hArray (Option.some.inj h), fun h => hObject (Option.some.inj h)⟩

theorem readValue_array {fuel : Nat} {text mid rest : List Char} {x : Value} {xs : List Value}
    (hOpen : (skipSpace text).head? ≠ some ']') (hHead : readValue fuel text = some (x, mid))
    (hTail : readItems fuel mid = some (xs, rest)) :
    readValue (fuel + 1) ('[' :: text) = some (.arr (x :: xs), rest) := by
  have hBracket : skipSpace ('[' :: text) = '[' :: text := skipSpace_cons (by decide)
  rw [readValue, hBracket]
  simp [hOpen, hHead, hTail]

theorem readValue_object {fuel : Nat} {text mid rest : List Char} {x : String × Value}
    {xs : List (String × Value)} (hHead : readEntry fuel ('"' :: text) = some (x, mid))
    (hTail : readEntries fuel mid = some (xs, rest)) :
    readValue (fuel + 1) ('{' :: '"' :: text) = some (.obj (x :: xs), rest) := by
  have hBrace : skipSpace ('{' :: '"' :: text) = '{' :: '"' :: text := skipSpace_cons (by decide)
  have hQuote : skipSpace ('"' :: text) = '"' :: text := skipSpace_cons (by decide)
  rw [readValue, hBrace]
  simp [hQuote, hHead, hTail]

/-- A written key is read back, and its value after it. -/
theorem readEntry_spell {esc : Char → List Char} (reads : Reads esc) {gap : List Char} (spaces : gap.all isSpace = true)
    {fuel : Nat} (k : String)
    {text rest : List Char} {x : Value} (hValue : readValue fuel text = some (x, rest)) :
    readEntry (fuel + 1) (quoted esc k.toList ++ ':' :: (gap ++ text)) = some ((k, x), rest) := by
  have hQuote : skipSpace (quoted esc k.toList ++ ':' :: (gap ++ text)) =
      quoted esc k.toList ++ ':' :: (gap ++ text) := skipSpace_cons (by decide)
  have hColon : skipSpace (':' :: (gap ++ text)) = ':' :: (gap ++ text) := skipSpace_cons (by decide)
  have hKey : readKey (quoted esc k.toList ++ ':' :: (gap ++ text)) = some (k, gap ++ text) := by
    rw [readKey, hQuote]
    simp only [quoted, List.cons_append, List.append_assoc, List.nil_append, if_true,
      readLiteral_quoted reads, Option.bind_some, hColon, String.ofList_toList]
  rw [readEntry, hKey]
  simp [readValue_gap spaces, hValue]

mutual

/-- The reader inverts the writer. -/
theorem readValue_spell {esc : Char → List Char} (reads : Reads esc) {gap : List Char}
    (spaces : gap.all isSpace = true) :
    (v : Value) → ∀ {fuel : Nat} {rest : List Char}, (spell esc gap v).length ≤ fuel →
      Stops continuesNumber rest → readValue fuel (spell esc gap v ++ rest) = some (v, rest)
  | v, 0, rest, hFuel, _ => by
    obtain ⟨c, tail, hCons, -⟩ := spell_cons esc gap v
    rw [hCons] at hFuel
    cases hFuel
  | .null, fuel + 1, rest, _, _ => by simp [spell, readValue, skipSpace, isSpace, readWord]
  | .bool true, fuel + 1, rest, _, _ => by simp [spell, readValue, skipSpace, isSpace, readWord]
  | .bool false, fuel + 1, rest, _, _ => by simp [spell, readValue, skipSpace, isSpace, readWord]
  | .number n, fuel + 1, rest, _, stops => by
    rw [spell]
    exact readValue_number fuel n stops
  | .str s, fuel + 1, rest, _, _ => by
    have hRead := readLiteral_quoted reads s.toList rest
    simp [spell, quoted, readValue, skipSpace, isSpace, hRead]
  | .arr [], fuel + 1, rest, _, _ => by simp [spell, readValue, skipSpace, isSpace]
  | .arr (x :: xs), fuel + 1, rest, hFuel, _ => by
    rw [spell, List.length_cons, List.length_append] at hFuel
    have hHead := readValue_spell reads spaces x (show (spell esc gap x).length ≤ fuel by omega)
      (stops_items esc gap rest xs)
    have hTail := @readItems_spell esc reads gap spaces xs fuel rest (by omega)
    rw [spell, List.cons_append, List.append_assoc]
    exact readValue_array (not_closed esc gap x _).1 hHead hTail
  | .obj [], fuel + 1, rest, _, _ => by simp [spell, readValue, skipSpace, isSpace]
  | .obj ((k, x) :: xs), fuel + 1, rest, hFuel, _ => by
    simp only [spell, List.length_cons, List.length_append, quoted_length] at hFuel
    have hHead := readValue_spell reads spaces x (show (spell esc gap x).length ≤ fuel - 1 by omega)
      (stops_entries esc gap rest xs)
    have hTail := @readEntries_spell esc reads gap spaces xs fuel rest (by omega)
    obtain ⟨fuel, rfl⟩ : ∃ smaller, fuel = smaller + 1 := ⟨fuel - 1, by omega⟩
    have hEntry : readEntry (fuel + 1) _ = some ((k, x), _) := readEntry_spell reads spaces k hHead
    rw [spell, List.cons_append, List.append_assoc, List.cons_append, List.append_assoc,
      List.append_assoc]
    exact readValue_object hEntry hTail

theorem readItems_spell {esc : Char → List Char} (reads : Reads esc) {gap : List Char}
    (spaces : gap.all isSpace = true) :
    (xs : List Value) → ∀ {fuel : Nat} {rest : List Char}, (spellItems esc gap xs).length ≤ fuel →
      readItems fuel (spellItems esc gap xs ++ rest) = some (xs, rest)
  | [], 0, rest, hFuel => by simp [spellItems] at hFuel
  | _ :: _, 0, rest, hFuel => by simp [spellItems] at hFuel
  | [], fuel + 1, rest, _ => by simp [spellItems, readItems, skipSpace, isSpace]
  | x :: xs, fuel + 1, rest, hFuel => by
    simp only [spellItems, List.length_cons, List.length_append] at hFuel
    have hHead := readValue_spell reads spaces x (show (spell esc gap x).length ≤ fuel by omega)
      (stops_items esc gap rest xs)
    have hTail := @readItems_spell esc reads gap spaces xs fuel rest (by omega)
    rw [spellItems, List.cons_append, List.append_assoc, List.append_assoc]
    simp [readItems, skipSpace_cons, isSpace, readValue_gap spaces, hHead, hTail]

theorem readEntries_spell {esc : Char → List Char} (reads : Reads esc) {gap : List Char}
    (spaces : gap.all isSpace = true) :
    (xs : List (String × Value)) → ∀ {fuel : Nat} {rest : List Char},
      (spellEntries esc gap xs).length ≤ fuel →
        readEntries fuel (spellEntries esc gap xs ++ rest) = some (xs, rest)
  | [], 0, rest, hFuel => by simp [spellEntries] at hFuel
  | _ :: _, 0, rest, hFuel => by simp [spellEntries] at hFuel
  | [], fuel + 1, rest, _ => by simp [spellEntries, readEntries, skipSpace, isSpace]
  | (k, x) :: xs, fuel + 1, rest, hFuel => by
    simp only [spellEntries, List.length_cons, List.length_append, quoted_length] at hFuel
    have hHead := readValue_spell reads spaces x (show (spell esc gap x).length ≤ fuel - 1 by omega)
      (stops_entries esc gap rest xs)
    have hTail := @readEntries_spell esc reads gap spaces xs fuel rest (by omega)
    obtain ⟨fuel, rfl⟩ : ∃ smaller, fuel = smaller + 1 := ⟨fuel - 1, by omega⟩
    have hEntry : readEntry (fuel + 1) _ = some ((k, x), _) := readEntry_spell reads spaces k hHead
    rw [spellEntries, List.cons_append, List.append_assoc, List.append_assoc, List.cons_append,
      List.append_assoc, List.append_assoc, readEntries, skipSpace_cons (by decide)]
    simp [readEntry_gap spaces, hEntry, hTail]

end

theorem parse_spell {esc : Char → List Char} (reads : Reads esc) {gap : List Char}
    (spaces : gap.all isSpace = true) (v : Value) : parse (spell esc gap v) = some v := by
  have hRead := @readValue_spell esc reads gap spaces v ((spell esc gap v).length + 1) []
    (Nat.le_succ _) (by simp [Stops])
  rw [List.append_nil] at hRead
  rw [parse, hRead]
  rfl

theorem write_cons (gap : List Char) (v : Value) : ∃ c rest, write gap v = c :: rest ∧ Starts c := by
  rw [write_eq_spell]
  exact spell_cons escape gap v

theorem parse_write {gap : List Char} (spaces : gap.all isSpace = true) (v : Value) :
    parse (write gap v) = some v := by
  rw [write_eq_spell]
  exact parse_spell readLiteral_escape spaces v

end StockApi.JsonText

import StockApi.Library.JsonText

/-!
# What stands behind a value

A value that closes itself is read the same whatever follows it, so a text that holds one is a
document exactly when nothing but spaces follows.
-/

namespace StockApi.JsonText

open Digits

/-! ## Spaces and runs of digits -/

theorem skipSpace_append {text : List Char} (h : skipSpace text ≠ []) (more : List Char) :
    skipSpace (text ++ more) = skipSpace text ++ more := by
  have hRest : (text.dropWhile isSpace).isEmpty = false := by
    simpa [skipSpace] using h
  rw [skipSpace, skipSpace, List.dropWhile_append, hRest]
  rfl

theorem skipSpace_append_of_nil {text : List Char} (h : skipSpace text = []) (more : List Char) :
    skipSpace (text ++ more) = skipSpace more := by
  have hRest : (text.dropWhile isSpace).isEmpty = true := by
    simpa [skipSpace] using h
  rw [skipSpace, skipSpace, List.dropWhile_append, hRest]
  rfl

theorem skipSpace_of_cons {text rest : List Char} {c : Char} (h : skipSpace text = c :: rest)
    (more : List Char) : skipSpace (text ++ more) = c :: (rest ++ more) := by
  have hFound : skipSpace text ≠ [] := by
    rw [h]
    exact List.cons_ne_nil _ _
  rw [skipSpace_append hFound, h, List.cons_append]

theorem readDigits_of_rest {text : List Char} (h : (readDigits text).2 ≠ []) (more : List Char) :
    readDigits (text ++ more) = ((readDigits text).1, (readDigits text).2 ++ more) := by
  induction text with
  | nil => exact absurd rfl h
  | cons c rest ih =>
    by_cases hDigit : isDigit c = true
    · have hRest : (readDigits rest).2 ≠ [] := by simpa [readDigits, hDigit] using h
      have hTail := ih hRest
      simp only [readDigits, Prod.mk.injEq] at hTail
      simp [readDigits, hDigit, hTail.1, hTail.2]
    · simp [readDigits, hDigit]

/-! ## Numbers, strings and words -/

theorem readNatural_append {text rest : List Char} {n : Nat} (h : readNatural text = some (n, rest))
    (hRest : rest ≠ []) (more : List Char) : readNatural (text ++ more) = some (n, rest ++ more) := by
  unfold readNatural at h ⊢
  simp only at h ⊢
  split_ifs at h with hLeading
  obtain ⟨m, hRead, hEq⟩ := Option.map_eq_some_iff.mp h
  cases hEq
  rw [readDigits_of_rest hRest, if_neg hLeading, hRead]
  rfl

theorem readFraction_append {text rest : List Char} {f : Option Fraction}
    (h : readFraction text = some (f, rest)) (hRest : rest ≠ []) (more : List Char) :
    readFraction (text ++ more) = some (f, rest ++ more) := by
  cases text with
  | nil =>
    cases h
    exact absurd rfl hRest
  | cons c tail =>
    rw [readFraction] at h
    rw [List.cons_append, readFraction]
    split_ifs at h ⊢ with hPoint
    · obtain ⟨n, hRead, hEq⟩ := Option.bind_eq_some_iff.mp h
      split at hEq
      · rename_i hFits
        cases hEq
        simp only [readDigits_of_rest hRest, hRead, Option.bind_some, dif_pos hFits]
      · cases hEq
    · cases h
      rfl

theorem readExponent_append {text rest : List Char} {e : Option Int}
    (h : readExponent text = some (e, rest)) (hRest : rest ≠ []) (more : List Char) :
    readExponent (text ++ more) = some (e, rest ++ more) := by
  cases text with
  | nil =>
    cases h
    exact absurd rfl hRest
  | cons c tail =>
    rw [readExponent] at h
    rw [List.cons_append, readExponent]
    split_ifs at h ⊢ with hMark
    · obtain ⟨n, hRead, hEq⟩ := Option.map_eq_some_iff.mp h
      cases hEq
      have hSigned : readSign (tail ++ more) = ((readSign tail).1, (readSign tail).2 ++ more) := by
        cases tail with
        | nil => cases hRead
        | cons d rest =>
          simp only [readSign, List.cons_append]
          split_ifs <;> rfl
      simp only [hSigned, readDigits_of_rest hRest, hRead, Option.map_some]
    · cases h
      rfl

theorem readNumber_append {text rest : List Char} {n : NumberText}
    (h : readNumber text = some (n, rest)) (hRest : rest ≠ []) (more : List Char) :
    readNumber (text ++ more) = some (n, rest ++ more) := by
  unfold readNumber at h ⊢
  obtain ⟨⟨whole, afterWhole⟩, hWhole, h⟩ := Option.bind_eq_some_iff.mp h
  obtain ⟨⟨fraction, afterFraction⟩, hFraction, h⟩ := Option.bind_eq_some_iff.mp h
  obtain ⟨⟨exponent, afterExponent⟩, hExponent, h⟩ := Option.bind_eq_some_iff.mp h
  cases h
  have hAfterFraction : afterFraction ≠ [] := by
    rintro rfl
    cases hExponent
    exact hRest rfl
  have hAfterWhole : afterWhole ≠ [] := by
    rintro rfl
    cases hFraction
    exact hAfterFraction rfl
  have hMinus : readMinus (text ++ more) = ((readMinus text).1, (readMinus text).2 ++ more) := by
    cases text with
    | nil => cases hWhole
    | cons c tail =>
      simp only [readMinus, List.cons_append]
      split_ifs <;> rfl
  simp only [hMinus, readNatural_append hWhole hAfterWhole, readFraction_append hFraction hAfterFraction,
    readExponent_append hExponent hRest, Option.bind_eq_bind, Option.bind_some]
  rfl

theorem readLiteral_append {text s rest : List Char} (h : readLiteral text = some (s, rest))
    (more : List Char) : readLiteral (text ++ more) = some (s, rest ++ more) := by
  fun_induction readLiteral text generalizing s rest with
  | case1 => cases h
  | case2 tail =>
    cases h
    exact readLiteral_quote _
  | case3 a b c d tail _ ihPair ih =>
    obtain ⟨high, hHigh, h⟩ := Option.bind_eq_some_iff.mp h
    rw [List.cons_append, List.cons_append, List.cons_append, List.cons_append, List.cons_append,
      List.cons_append, readLiteral.eq_def]
    simp only [hHigh, Option.bind_some]
    split_ifs at h with hSurrogate hLow
    · split at h
      · obtain ⟨low, hReadLow, h⟩ := Option.bind_eq_some_iff.mp h
        split_ifs at h with hIsLow
        obtain ⟨⟨s', rest'⟩, hRead, hEq⟩ := Option.map_eq_some_iff.mp h
        cases hEq
        have hTail := ihPair hRead
        simp [hSurrogate, hReadLow, hIsLow, hTail]
      · cases h
    · obtain ⟨⟨s', rest'⟩, hRead, hEq⟩ := Option.map_eq_some_iff.mp h
      cases hEq
      simp [hSurrogate, hLow, ih hRead]
  | case4 e tail _ _ ih =>
    obtain ⟨c, hShort, h⟩ := Option.bind_eq_some_iff.mp h
    obtain ⟨⟨s', rest'⟩, hRead, hEq⟩ := Option.map_eq_some_iff.mp h
    cases hEq
    have hUnit : e ≠ 'u' := by
      rintro rfl
      simp [shortEscape] at hShort
    rw [List.cons_append, List.cons_append, readLiteral_short _ hUnit hShort, ih hRead]
    rfl
  | case5 => cases h
  | case6 => cases h
  | case7 c tail hQuote hSlash hControl ih =>
    obtain ⟨⟨s', rest'⟩, hRead, hEq⟩ := Option.map_eq_some_iff.mp h
    cases hEq
    rw [List.cons_append, readLiteral_plain _ hQuote hSlash hControl, ih hRead]
    rfl

theorem readWord_append {word text rest : List Char} (h : readWord word text = some rest)
    (more : List Char) : readWord word (text ++ more) = some (rest ++ more) := by
  unfold readWord at h ⊢
  split_ifs at h with hWord
  cases h
  have hLength : word.length ≤ text.length := by
    have hTaken := congrArg List.length hWord
    rw [List.length_take] at hTaken
    omega
  rw [List.take_append_of_le_length hLength, if_pos hWord, List.drop_append_of_le_length hLength]

theorem readKey_append {text rest : List Char} {k : String} (h : readKey text = some (k, rest))
    (more : List Char) : readKey (text ++ more) = some (k, rest ++ more) := by
  unfold readKey at h
  split at h
  · cases h
  · rename_i c tail hSkip
    split_ifs at h with hQuote
    obtain ⟨⟨s, afterKey⟩, hLiteral, h⟩ := Option.bind_eq_some_iff.mp h
    split at h
    · cases h
    · rename_i colon afterColon hColonSkip
      split_ifs at h with hColon
      cases h
      rw [readKey, skipSpace_of_cons hSkip]
      simp only [if_pos hQuote, readLiteral_append hLiteral, Option.bind_some,
        skipSpace_of_cons hColonSkip, if_pos hColon]

/-! ## Values -/

/-- With more fuel, and with more text behind it, the same is read. A number at the end of the text
may go on. -/
structure ReadsOn (fuel : Nat) : Prop where
  value : ∀ {text rest v}, readValue fuel text = some (v, rest) → (rest = [] → ∀ n, v ≠ .number n) →
    ∀ {fuel'}, fuel ≤ fuel' → ∀ more, readValue fuel' (text ++ more) = some (v, rest ++ more)
  items : ∀ {text rest xs}, readItems fuel text = some (xs, rest) →
    ∀ {fuel'}, fuel ≤ fuel' → ∀ more, readItems fuel' (text ++ more) = some (xs, rest ++ more)
  entry : ∀ {text rest k v}, readEntry fuel text = some ((k, v), rest) →
    (rest = [] → ∀ n, v ≠ .number n) →
    ∀ {fuel'}, fuel ≤ fuel' → ∀ more, readEntry fuel' (text ++ more) = some ((k, v), rest ++ more)
  entries : ∀ {text rest xs}, readEntries fuel text = some (xs, rest) →
    ∀ {fuel'}, fuel ≤ fuel' → ∀ more, readEntries fuel' (text ++ more) = some (xs, rest ++ more)

theorem readItems_nonempty {fuel : Nat} {text rest : List Char} {xs : List Value}
    (h : readItems fuel text = some (xs, rest)) : text ≠ [] := by
  rintro rfl
  cases fuel <;> cases h

theorem readEntries_nonempty {fuel : Nat} {text rest : List Char} {xs : List (String × Value)}
    (h : readEntries fuel text = some (xs, rest)) : text ≠ [] := by
  rintro rfl
  cases fuel <;> cases h

theorem readValue_skipSpace {fuel : Nat} {text rest : List Char} {v : Value}
    (h : readValue fuel text = some (v, rest)) : skipSpace text ≠ [] := by
  intro hEmpty
  cases fuel with
  | zero => cases h
  | succ fuel =>
    rw [readValue, hEmpty] at h
    cases h

theorem readEntry_skipSpace {fuel : Nat} {text rest : List Char} {e : String × Value}
    (h : readEntry fuel text = some (e, rest)) : skipSpace text ≠ [] := by
  intro hEmpty
  cases fuel with
  | zero => cases h
  | succ fuel =>
    rw [readEntry, readKey, hEmpty] at h
    cases h

theorem head?_skipSpace_append {text : List Char} (h : skipSpace text ≠ []) (more : List Char) :
    (skipSpace (text ++ more)).head? = (skipSpace text).head? := by
  rw [skipSpace_append h, List.head?_append_of_ne_nil _ h]

theorem ReadsOn.value_succ {fuel : Nat} (on : ReadsOn fuel) {text rest : List Char} {v : Value}
    (h : readValue (fuel + 1) text = some (v, rest)) (stop : rest = [] → ∀ n, v ≠ .number n)
    {fuel' : Nat} (le : fuel ≤ fuel') (more : List Char) :
    readValue (fuel' + 1) (text ++ more) = some (v, rest ++ more) := by
  rw [readValue] at h
  split at h
  · cases h
  rename_i c tail hSkip
  rw [readValue, skipSpace_of_cons hSkip]
  simp only
  by_cases hQuote : c = '"'
  · rw [if_pos hQuote] at h ⊢
    obtain ⟨⟨s, after⟩, hLiteral, hEq⟩ := Option.map_eq_some_iff.mp h
    cases hEq
    rw [readLiteral_append hLiteral]
    rfl
  rw [if_neg hQuote] at h ⊢
  by_cases hArray : c = '['
  · rw [if_pos hArray] at h ⊢
    by_cases hEmpty : (skipSpace tail).head? = some ']'
    · rw [if_pos hEmpty] at h
      obtain ⟨after, hClose⟩ := List.head?_eq_some_iff.mp hEmpty
      rw [skipSpace_of_cons hClose, List.head?_cons, if_pos rfl]
      rw [hClose] at h
      cases h
      rfl
    · rw [if_neg hEmpty] at h
      obtain ⟨⟨x, middle⟩, hHead, h⟩ := Option.bind_eq_some_iff.mp h
      obtain ⟨⟨xs, after⟩, hTail, h⟩ := Option.bind_eq_some_iff.mp h
      cases h
      have hOpen : ¬ (skipSpace (tail ++ more)).head? = some ']' := by
        rwa [head?_skipSpace_append (readValue_skipSpace hHead)]
      rw [if_neg hOpen]
      have hMiddle : middle ≠ [] := readItems_nonempty hTail
      rw [on.value hHead (fun h => absurd h hMiddle) le more]
      simp only [Option.bind_eq_bind, Option.bind_some]
      rw [on.items hTail le more]
      rfl
  rw [if_neg hArray] at h ⊢
  by_cases hObject : c = '{'
  · rw [if_pos hObject] at h ⊢
    by_cases hEmpty : (skipSpace tail).head? = some '}'
    · rw [if_pos hEmpty] at h
      obtain ⟨after, hClose⟩ := List.head?_eq_some_iff.mp hEmpty
      rw [skipSpace_of_cons hClose, List.head?_cons, if_pos rfl]
      rw [hClose] at h
      cases h
      rfl
    · rw [if_neg hEmpty] at h
      obtain ⟨⟨⟨k, x⟩, middle⟩, hHead, h⟩ := Option.bind_eq_some_iff.mp h
      obtain ⟨⟨xs, after⟩, hTail, h⟩ := Option.bind_eq_some_iff.mp h
      cases h
      have hOpen : ¬ (skipSpace (tail ++ more)).head? = some '}' := by
        rwa [head?_skipSpace_append (readEntry_skipSpace hHead)]
      rw [if_neg hOpen]
      have hMiddle : middle ≠ [] := readEntries_nonempty hTail
      rw [on.entry hHead (fun h => absurd h hMiddle) le more]
      simp only [Option.bind_eq_bind, Option.bind_some]
      rw [on.entries hTail le more]
      rfl
  rw [if_neg hObject] at h ⊢
  split_ifs at h ⊢
  · obtain ⟨after, hWord, hEq⟩ := Option.map_eq_some_iff.mp h
    cases hEq
    rw [readWord_append hWord]
    rfl
  · obtain ⟨after, hWord, hEq⟩ := Option.map_eq_some_iff.mp h
    cases hEq
    rw [readWord_append hWord]
    rfl
  · obtain ⟨after, hWord, hEq⟩ := Option.map_eq_some_iff.mp h
    cases hEq
    rw [readWord_append hWord]
    rfl
  · obtain ⟨⟨n, after⟩, hNumber, hEq⟩ := Option.map_eq_some_iff.mp h
    cases hEq
    have hRest : after ≠ [] := fun h => stop h n rfl
    rw [← List.cons_append, readNumber_append hNumber hRest]
    rfl

theorem readsOn : ∀ fuel, ReadsOn fuel
  | 0 => {
      value := fun h => by cases h
      items := fun h => by cases h
      entry := fun h => by cases h
      entries := fun h => by cases h }
  | fuel + 1 => by
    have on := readsOn fuel
    constructor
    case value =>
      intro text rest v h stop fuel' le more
      obtain ⟨smaller, rfl⟩ : ∃ smaller, fuel' = smaller + 1 := ⟨fuel' - 1, by omega⟩
      exact on.value_succ h stop (by omega) more
    case items =>
      intro text rest xs h fuel' le more
      obtain ⟨smaller, rfl⟩ : ∃ smaller, fuel' = smaller + 1 := ⟨fuel' - 1, by omega⟩
      rw [readItems] at h
      split at h
      · cases h
      rename_i c tail hSkip
      rw [readItems, skipSpace_of_cons hSkip]
      simp only
      split_ifs at h ⊢
      · cases h
        rfl
      · obtain ⟨⟨x, middle⟩, hHead, h⟩ := Option.bind_eq_some_iff.mp h
        obtain ⟨⟨xs, after⟩, hTail, h⟩ := Option.bind_eq_some_iff.mp h
        cases h
        have hMiddle : middle ≠ [] := readItems_nonempty hTail
        rw [on.value hHead (fun h => absurd h hMiddle) (by omega) more]
        simp only [Option.bind_eq_bind, Option.bind_some]
        rw [on.items hTail (by omega) more]
        rfl
    case entry =>
      intro text rest k v h stop fuel' le more
      obtain ⟨smaller, rfl⟩ : ∃ smaller, fuel' = smaller + 1 := ⟨fuel' - 1, by omega⟩
      rw [readEntry] at h ⊢
      obtain ⟨⟨k', middle⟩, hKey, h⟩ := Option.bind_eq_some_iff.mp h
      obtain ⟨⟨x, after⟩, hValue, h⟩ := Option.bind_eq_some_iff.mp h
      cases h
      rw [readKey_append hKey]
      simp only [Option.bind_eq_bind, Option.bind_some]
      rw [on.value hValue stop (by omega) more]
      rfl
    case entries =>
      intro text rest xs h fuel' le more
      obtain ⟨smaller, rfl⟩ : ∃ smaller, fuel' = smaller + 1 := ⟨fuel' - 1, by omega⟩
      rw [readEntries] at h
      split at h
      · cases h
      rename_i c tail hSkip
      rw [readEntries, skipSpace_of_cons hSkip]
      simp only
      split_ifs at h ⊢
      · cases h
        rfl
      · obtain ⟨⟨⟨k, x⟩, middle⟩, hHead, h⟩ := Option.bind_eq_some_iff.mp h
        obtain ⟨⟨xs, after⟩, hTail, h⟩ := Option.bind_eq_some_iff.mp h
        cases h
        have hMiddle : middle ≠ [] := readEntries_nonempty hTail
        rw [on.entry hHead (fun h => absurd h hMiddle) (by omega) more]
        simp only [Option.bind_eq_bind, Option.bind_some]
        rw [on.entries hTail (by omega) more]
        rfl

theorem parse_append {text : List Char} {v : Value} (h : parse text = some v)
    (closed : ∀ n, v ≠ .number n) (more : List Char) :
    parse (text ++ more) = if skipSpace more = [] then some v else none := by
  obtain ⟨⟨u, rest⟩, hRead, h⟩ := Option.bind_eq_some_iff.mp h
  dsimp only at h
  split_ifs at h with hRest
  cases h
  have hLength : text.length + 1 ≤ (text ++ more).length + 1 := by
    rw [List.length_append]
    omega
  rw [parse, (readsOn _).value hRead (fun _ => closed) hLength more]
  simp only [Option.bind_eq_bind, Option.bind_some, skipSpace_append_of_nil hRest]

end StockApi.JsonText

import Mathlib.Data.List.DropRight
import StockApi.Forecasts.Fields

/-!
# The text functions of Python on ASCII

`str.strip` for all texts, and `str.upper` with `unicodedata.normalize` for those where a letter is an
ASCII letter, or one of the signs that normalizing turns into letters.
-/

namespace StockApi.Forecasts

open Text

/-- `str.strip`. -/
def strip (s : String) : String := String.ofList ((s.toList.dropWhile isSpace).rdropWhile isSpace)

/-- `str.upper`. -/
def upper (s : String) : String := String.ofList (s.toList.map Char.toUpper)

theorem head_of_prefix {cs ds : List Char} (h : cs <+: ds) : ∀ c ∈ cs.head?, c ∈ ds.head? := by
  obtain ⟨rest, rfl⟩ := h
  intro c hc
  rw [List.head?_append]
  simp [Option.mem_def.mp hc]

theorem trimmed_strip (s : String) : Trimmed (strip s) := by
  rw [Trimmed, strip, String.toList_ofList]
  constructor
  · intro c hc
    have hStart := head_of_prefix (List.rdropWhile_prefix isSpace _) c hc
    have hNot := List.head?_dropWhile_not isSpace s.toList
    rw [Option.mem_def.mp hStart] at hNot
    simpa using hNot
  · intro c hc
    obtain ⟨hne, rfl⟩ := List.mem_getLast?_eq_getLast hc
    have hNot := List.rdropWhile_last_not isSpace _ hne
    simpa using hNot

theorem strip_of_trimmed {s : String} (h : Trimmed s) : strip s = s := by
  have hStart : s.toList.dropWhile isSpace = s.toList := by
    rw [List.dropWhile_eq_self_iff]
    intro hPos
    simpa using h.1 _ (List.head?_eq_getElem? ▸ List.getElem?_eq_getElem hPos)
  have hFinish : s.toList.rdropWhile isSpace = s.toList := by
    rw [List.rdropWhile_eq_self_iff]
    intro hne
    simpa using h.2 _ (List.getLast?_eq_getLast_of_ne_nil hne)
  rw [strip, hStart, hFinish, String.ofList_toList]

theorem strip_eq_self_iff {s : String} : strip s = s ↔ Trimmed s :=
  ⟨fun h => h ▸ trimmed_strip s, strip_of_trimmed⟩

/-- Only a letter is changed, into a letter. -/
theorem toUpper_cases (c : Char) :
    c.toUpper = c ∨ (97 ≤ c.toNat ∧ c.toNat ≤ 122) ∧ 65 ≤ c.toUpper.toNat ∧ c.toUpper.toNat ≤ 90 := by
  by_cases h : 'a'.val ≤ c.val ∧ c.val ≤ 'z'.val
  · right
    have hLow : 97 ≤ c.val.toNat := UInt32.le_iff_toNat_le.mp h.1
    have hHigh : c.val.toNat ≤ 122 := UInt32.le_iff_toNat_le.mp h.2
    have hUpper : c.toUpper.val.toNat = (c.val.toNat + 4294967264) % 4294967296 :=
      (congrArg (fun d : Char => d.val.toNat) (dif_pos h)).trans (UInt32.toNat_add ..)
    simp only [Char.toNat, hUpper]
    omega
  · exact .inl (dif_neg h)

theorem isSpace_toUpper (c : Char) : isSpace c.toUpper = isSpace c := by
  rcases toUpper_cases c with h | ⟨hLower, hUpper⟩
  · rw [h]
  · have hNot : ∀ d : Char, 65 ≤ d.toNat ∧ d.toNat ≤ 122 → isSpace d = false := by
      intro d hd
      simp only [isSpace, Bool.or_eq_false_iff, Bool.and_eq_false_iff, decide_eq_false_iff_not]
      omega
    rw [hNot _ ⟨hUpper.1, by omega⟩, hNot _ ⟨by omega, hLower.2⟩]

theorem toUpper_toUpper (c : Char) : c.toUpper.toUpper = c.toUpper := by
  rcases toUpper_cases c with h | ⟨-, hUpper⟩
  · rw [h, h]
  · rcases toUpper_cases c.toUpper with h | ⟨hLower, -⟩
    · exact h
    · omega

theorem upper_upper (s : String) : upper (upper s) = upper s := by
  rw [upper, upper, String.toList_ofList, List.map_map]
  exact congrArg String.ofList (List.map_congr_left fun c _ => toUpper_toUpper c)

theorem trimmed_upper {s : String} (h : Trimmed s) : Trimmed (upper s) := by
  rw [Trimmed, upper, String.toList_ofList, List.head?_map, List.getLast?_map]
  constructor
  · rintro c hc
    obtain ⟨d, hd, rfl⟩ := Option.map_eq_some_iff.mp hc
    rw [isSpace_toUpper]
    exact h.1 d hd
  · rintro c hc
    obtain ⟨d, hd, rfl⟩ := Option.map_eq_some_iff.mp hc
    rw [isSpace_toUpper]
    exact h.2 d hd

theorem strip_strip (s : String) : strip (strip s) = strip s := strip_of_trimmed (trimmed_strip s)

theorem strip_upper (s : String) (h : strip s = s) : strip (upper s) = upper s :=
  strip_of_trimmed (trimmed_upper (strip_eq_self_iff.mp h))

theorem upper_of_ascii (s : String) (_ : IsAscii s) : upper s = String.ofList (s.toList.map Char.toUpper) := rfl

theorem id_of_ascii (s : String) (_ : IsAscii s) : id s = s := rfl

theorem id_again (s : String) : id (id s) = id s := rfl

/-- The rules of a service whose texts have no other letters. -/
def asciiRules : TextRules where
  nfc := id
  idempotent := id_again
  strip := strip
  upper := upper
  multipleOf _ := true
  strip_strip := strip_strip
  strip_trimmed _ h := strip_of_trimmed h
  upper_upper := upper_upper
  strip_upper := strip_upper
  multiple _ _ := rfl
  upper_ascii := upper_of_ascii
  nfc_ascii := id_of_ascii
  nfc_nonempty _ h := h
  strip_nfc _ h := h
  upper_nfc _ h := h

/-! ## Texts with signs that are letters -/

/-- The letters that the signs of the kelvin, the angstrom and the ohm are composed to. -/
def composed (c : Char) : Char :=
  if c = Char.ofNat 0x212a then 'K' else if c = Char.ofNat 0x212b then Char.ofNat 0xc5
  else if c = Char.ofNat 0x2126 then Char.ofNat 0x3a9 else c

theorem composed_cases (c : Char) : composed c = c ∨
    128 ≤ c.toNat ∧ (composed c = 'K' ∨ composed c = Char.ofNat 0xc5 ∨ composed c = Char.ofNat 0x3a9) := by
  simp only [composed]
  split_ifs with hKelvin hAngstrom hOhm
  · exact .inr ⟨hKelvin ▸ by decide, .inl rfl⟩
  · exact .inr ⟨hAngstrom ▸ by decide, .inr (.inl rfl)⟩
  · exact .inr ⟨hOhm ▸ by decide, .inr (.inr rfl)⟩
  · exact .inl rfl

theorem composed_composed (c : Char) : composed (composed c) = composed c := by
  obtain h | ⟨-, h | h | h⟩ := composed_cases c
  · rw [h, h]
  all_goals
    rw [h]
    decide

theorem isSpace_composed (c : Char) : Text.isSpace (composed c) = Text.isSpace c := by
  simp only [composed]
  split_ifs with hKelvin hAngstrom hOhm
  · rw [hKelvin]
    decide
  · rw [hAngstrom]
    decide
  · rw [hOhm]
    decide
  · rfl

theorem toUpper_composed {c : Char} (h : c.toUpper = c) : (composed c).toUpper = composed c := by
  obtain hSame | ⟨-, hSign | hSign | hSign⟩ := composed_cases c
  · rw [hSame, h]
  all_goals
    rw [hSign]
    decide

/-- `unicodedata.normalize` of texts whose other characters are composed already. -/
def compose (s : String) : String := String.ofList (s.toList.map composed)

theorem toList_compose (s : String) : (compose s).toList = s.toList.map composed := String.toList_ofList

theorem compose_compose (s : String) : compose (compose s) = compose s := by
  rw [compose, toList_compose, List.map_map, compose]
  exact congrArg String.ofList (List.map_congr_left fun c _ => composed_composed c)

theorem compose_ascii (s : String) (h : IsAscii s) : compose s = s := by
  have hSame : s.toList.map composed = s.toList := by
    refine (List.map_congr_left fun c hMem => ?_).trans (List.map_id _)
    obtain hSame | ⟨hSign, -⟩ := composed_cases c
    · exact hSame
    · exact absurd (h c hMem) (not_lt.mpr hSign)
  rw [compose, hSame, String.ofList_toList]

theorem compose_nonempty (s : String) (h : s ≠ "") : compose s ≠ "" := by
  intro hEmpty
  have hList := toList_compose s
  rw [hEmpty, eq_comm, String.toList_empty, List.map_eq_nil_iff] at hList
  exact h (String.toList_eq_nil_iff.mp hList)

theorem strip_compose (s : String) (h : strip s = s) : strip (compose s) = compose s := by
  have hTrimmed : Text.Trimmed s := strip_eq_self_iff.mp h
  apply strip_of_trimmed
  rw [Text.Trimmed, toList_compose, List.head?_map, List.getLast?_map]
  constructor
  · rintro c hc
    obtain ⟨d, hd, rfl⟩ := Option.map_eq_some_iff.mp hc
    rw [isSpace_composed]
    exact hTrimmed.1 d hd
  · rintro c hc
    obtain ⟨d, hd, rfl⟩ := Option.map_eq_some_iff.mp hc
    rw [isSpace_composed]
    exact hTrimmed.2 d hd

theorem upper_compose (s : String) (h : upper s = s) : upper (compose s) = compose s := by
  have hEach : ∀ c ∈ s.toList, c.toUpper = c := by
    have hList : s.toList.map Char.toUpper = s.toList.map id := by
      rw [List.map_id, ← String.toList_ofList (l := s.toList.map Char.toUpper)]
      exact congrArg String.toList h
    exact List.map_inj_left.mp hList
  rw [upper, toList_compose, List.map_map, compose]
  exact congrArg String.ofList (List.map_congr_left fun c hMem => toUpper_composed (hEach c hMem))

/-- The rules of a service whose texts hold such signs. -/
def composedRules : TextRules where
  nfc := compose
  idempotent := compose_compose
  strip := strip
  upper := upper
  multipleOf _ := true
  strip_strip := strip_strip
  strip_trimmed _ h := strip_of_trimmed h
  upper_upper := upper_upper
  strip_upper := strip_upper
  multiple _ _ := rfl
  upper_ascii := upper_of_ascii
  nfc_ascii := compose_ascii
  nfc_nonempty := compose_nonempty
  strip_nfc := strip_compose
  upper_nfc := upper_compose

end StockApi.Forecasts

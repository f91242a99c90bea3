import StockApi.Library.DocumentSize
import StockApi.Selection.Agreement
import Mathlib.Algebra.Order.BigOperators.Group.List
import Mathlib.Data.Int.Interval

/-!
# The size of a selection policy

The constructor bounds the fields one by one, the encoder the whole document. What decides between the
two is the size of the symbols.
-/

namespace StockApi.Selection

open Checked CivilTime Documents Text JsonText Digits

variable (floats : FloatText)

/-! ## Parts of the document -/

/-- Every symbol with its quotes and the sign after it. -/
def symbolsSize (p : PolicyFields) : Nat := (p.symbols.map fun s => s.toList.length + 3).sum

theorem sizeItems_ints (values : List Int) :
    sizeItems floats (values.map .int) = (values.map fun n => (ofInt n).chars.length + 1).sum := by
  induction values with
  | nil => rfl
  | cons n rest ih => rw [List.map_cons, sizeItems, ih, size, List.map_cons, List.sum_cons]

theorem sizeItems_plain (values : List String) :
    sizeItems floats (values.map .plain) = (values.map fun s => s.toList.length + 3).sum := by
  induction values with
  | nil => rfl
  | cons s rest ih => rw [List.map_cons, sizeItems, ih, Json.plain, size, List.map_cons, List.sum_cons]

/-- Distinct numbers of at most three digits. -/
theorem sum_chars_le {values : List Int} {bound : Nat} (bounds : ∀ n ∈ values, 1 ≤ n ∧ n < 1000)
    (count : values.length ≤ bound) : (values.map fun n => (ofInt n).chars.length + 1).sum ≤ bound * 4 := by
  have hEach : ∀ k ∈ values.map fun n => (ofInt n).chars.length + 1, k ≤ 4 := by
    intro k hk
    obtain ⟨n, hn, rfl⟩ := List.mem_map.mp hk
    obtain ⟨hLow, hHigh⟩ := bounds n hn
    have hDigits : (ofInt n).chars.length ≤ 3 := length_chars_le (by decide) (by omega) (by omega)
    omega
  have hSum := List.sum_le_card_nsmul _ 4 hEach
  rw [List.length_map, nsmul_eq_mul, Nat.cast_id] at hSum
  exact hSum.trans (Nat.mul_le_mul_right 4 count)

theorem length_steps_le {steps : List Int} (bounds : ∀ s ∈ steps, 1 ≤ s ∧ s ≤ 252)
    (sorted : steps.Pairwise (· < ·)) : steps.length ≤ 252 := by
  have hNodup : steps.Nodup := sorted.imp fun h => h.ne
  have hSubset : steps.toFinset ⊆ Finset.Icc 1 252 := by
    intro s hs
    exact Finset.mem_Icc.mpr (bounds s (List.mem_toFinset.mp hs))
  have hCard := Finset.card_le_card hSubset
  rw [List.toFinset_card_of_nodup hNodup, Int.card_Icc] at hCard
  exact hCard

/-! ## The document -/

variable {floats} {p : PolicyFields}

/-- The parts of the document that differ between policies. -/
theorem size_policyDocument (valid : p.Valid) : size floats (policyDocument p) = 1309 +
    (ofInt p.minimumSealLeadSeconds).chars.length + (ofInt p.resolutionLagSeconds).chars.length +
    (ofInt p.horizon).chars.length + p.modelSelector.toList.length + p.modelVersion.toList.length +
    max 1 (p.intervalCoveragesMillis.map fun n => (ofInt n).chars.length + 1).sum +
    max 1 (p.selectedSteps.map fun n => (ofInt n).chars.length + 1).sum + max 1 (symbolsSize p) +
    (ofInt p.minimumFitMemberCount).chars.length + (ofInt p.minimumHeldoutMemberCount).chars.length := by
  have hSchema : (ofInt 1).chars.length = 1 := by decide
  simp only [policyDocument, epochDocument, studyDocument, windowsDocument, windowDocument, size, sizeEntries,
    Json.plain, sizeItems_ints]
  rw [valid.target, valid.cadence, valid.seriesBasis, valid.horizonUnit, valid.currency, valid.snapshotBinding,
    valid.selectionRule, valid.schemaVersion, hSchema, sizeItems_plain, ← symbolsSize]
  simp only [length_isoformat, valid.forecastResolution.2.1, valid.forecastAvailability.2.1,
    valid.outcomeResolution.2.1, valid.outcomeAvailability.2.1]
  generalize (p.intervalCoveragesMillis.map fun n => (ofInt n).chars.length + 1).sum = coverages
  generalize (p.selectedSteps.map fun n => (ofInt n).chars.length + 1).sum = steps
  simp only [String.reduceToList, List.length_cons, List.length_nil]
  omega

/-- Apart from the symbols, a policy takes at least 1309 and at most 2600 bytes. -/
theorem size_bounds (valid : p.Valid) : symbolsSize p + 1309 ≤ size floats (policyDocument p) ∧
    size floats (policyDocument p) ≤ symbolsSize p + 2600 := by
  have hSelector : p.modelSelector.toList.length = 14 := by
    obtain ⟨start, hStart, -⟩ := valid.model
    rcases modelVersionStart_lookup.mp hStart with ⟨hName, -⟩ | ⟨hName, -⟩ <;> rw [hName] <;> rfl
  have hVersion : p.modelVersion.toList.length ≤ 128 := by
    obtain ⟨start, -, hPattern, -⟩ := valid.model
    exact hPattern.2.1
  have hInt : ∀ n : Int, 1 ≤ n ∧ n ≤ 31622400 → (ofInt n).chars.length ≤ 8 := by
    rintro n ⟨hLow, hHigh⟩
    exact length_chars_le (by decide) (by omega) (by omega)
  have hHorizon := hInt p.horizon ⟨valid.horizon.1, by have := valid.horizon.2; omega⟩
  have hLead := hInt p.minimumSealLeadSeconds ⟨by have := valid.sealLead.1; omega, valid.sealLead.2⟩
  have hLag := hInt p.resolutionLagSeconds valid.lag
  have hFit := hInt p.minimumFitMemberCount ⟨valid.fitCount.1, by have := valid.fitCount.2; omega⟩
  have hHeldout := hInt p.minimumHeldoutMemberCount ⟨valid.heldoutCount.1, by have := valid.heldoutCount.2; omega⟩
  have hSteps : (p.selectedSteps.map fun n => (ofInt n).chars.length + 1).sum ≤ 252 * 4 := by
    apply sum_chars_le
    · intro n hn
      have hBounds := (valid.steps n hn).1
      omega
    · exact length_steps_le (fun s hs => (valid.steps s hs).1) valid.stepsSorted
  have hCoverages : (p.intervalCoveragesMillis.map fun n => (ofInt n).chars.length + 1).sum ≤ 9 * 4 := by
    apply sum_chars_le
    · intro n hn
      have hBounds := valid.coverages n hn
      omega
    · exact valid.coverageCount.2
  rw [size_policyDocument valid]
  omega

/-- A symbol has at most 32 characters. -/
theorem symbolsSize_le (valid : p.Valid) : symbolsSize p ≤ p.symbols.length * 35 := by
  have hEach : ∀ k ∈ p.symbols.map fun s => s.toList.length + 3, k ≤ 35 := by
    intro k hk
    obtain ⟨s, hs, rfl⟩ := List.mem_map.mp hk
    have hLength := (valid.symbols s hs).2
    omega
  have hSum := List.sum_le_card_nsmul _ 35 hEach
  rw [List.length_map, nsmul_eq_mul, Nat.cast_id] at hSum
  exact hSum

/-! ### No text needs an escape -/

theorem plainItems_ints (values : List Int) : PlainItems (values.map .int) := by
  induction values with
  | nil => exact trivial
  | cons n rest ih => exact ⟨trivial, ih⟩

theorem plain_modelVersion {s : String} (h : IsModelVersion s) : PlainText s := by
  apply List.all_eq_true.mpr
  intro c hc
  have hChar := List.all_eq_true.mp h.2.2 c hc
  simp only [Bool.or_eq_true, Bool.and_eq_true, decide_eq_true_eq] at hChar
  rcases hChar with ((((((⟨hLow, hHigh⟩ | ⟨hLow, hHigh⟩) | ⟨hLow, hHigh⟩) | rfl) | rfl) | rfl) | rfl)
  · exact plainChar_between hLow hHigh (by decide)
  · exact plainChar_between hLow hHigh (by decide)
  · exact plainChar_between hLow hHigh (by decide)
  all_goals decide

theorem plain_date (d : Date) : PlainText d.isoformat := by
  have hDigits : ∀ width n, (pad width n).all plainChar = true := by
    intro width n
    apply List.all_eq_true.mpr
    intro c hc
    have hDigit := List.all_eq_true.mp (all_isDigit_pad width n) c hc
    simp only [isDigit, digitValue] at hDigit
    split_ifs at hDigit with hRange
    · exact plainChar_of_range (by omega)
    · cases hDigit
  rw [PlainText, Date.isoformat, String.toList_ofList, Date.isoChars]
  simp only [List.all_append, List.all_cons, hDigits, Bool.true_and, Bool.and_true]
  decide

theorem plain_policyDocument (valid : p.Valid) : Plain (policyDocument p) := by
  have hSelector : PlainText p.modelSelector := by
    obtain ⟨start, hStart, -⟩ := valid.model
    rcases modelVersionStart_lookup.mp hStart with ⟨hName, -⟩ | ⟨hName, -⟩ <;> rw [hName] <;> decide
  have hVersion : PlainText p.modelVersion := by
    obtain ⟨start, -, hPattern, -⟩ := valid.model
    exact plain_modelVersion hPattern
  simp only [policyDocument, epochDocument, studyDocument, windowsDocument, windowDocument, Plain, PlainEntries,
    Json.plain, plain_date, hSelector, hVersion, plainItems_ints, plain_hash valid.forecastResolution,
    plain_hash valid.forecastAvailability, plain_hash valid.outcomeResolution, plain_hash valid.outcomeAvailability,
    plainItems_texts fun s hs => plain_symbol (valid.symbols s hs).1, and_true, true_and]
  rw [valid.target, valid.cadence, valid.seriesBasis, valid.horizonUnit, valid.currency, valid.snapshotBinding,
    valid.selectionRule]
  decide

/-! ## Refusals -/

def exceedsStorage : String := "canonical selection policy exceeds the storage limit"

section Refusals

variable {α β γ : Type} {e e' : String}

theorem refuseIf_bind_ne {c : Prop} [Decidable c] {f : PUnit → Except String α} (other : e ≠ e')
    (rest : f ⟨⟩ ≠ .error e') : (refuseIf c e >>= f) ≠ .error e' := by
  intro h
  by_cases hc : c
  · rw [refuseIf_of hc, error_bind] at h
    exact other (Except.error.inj h)
  · rw [refuseIf_of_not hc, ok_bind] at h
    exact rest h

theorem orRefuse_bind_ne {x : Option β} {f : β → Except String α} (other : e ≠ e')
    (rest : ∀ b, f b ≠ .error e') : (orRefuse x e >>= f) ≠ .error e' := by
  intro h
  cases x with
  | none => exact other (Except.error.inj h)
  | some b => exact rest b h

/-- A loop fails only with what a round fails with. -/
theorem foldlM_ne {f : β → γ → Except String β} (rounds : ∀ s x, f s x ≠ .error e') (xs : List γ) (s : β) :
    xs.foldlM f s ≠ .error e' := by
  induction xs generalizing s with
  | nil =>
    intro h
    cases h
  | cons x rest ih =>
    intro h
    rw [List.foldlM_cons] at h
    cases hRound : f s x with
    | error e =>
      rw [hRound, error_bind] at h
      exact rounds s x (hRound.trans h)
    | ok next =>
      rw [hRound, ok_bind] at h
      exact ih next h

end Refusals

variable {policy : ProspectiveForecastSelectionPolicy} {sha256 : Bytes → String}

theorem assignCandidate_ne (policyHash : String) (planned : Planned) (c : ForecastSelectionCandidate) :
    assignCandidate policy policyHash planned c ≠ .error exceedsStorage := by
  apply refuseIf_bind_ne (by simp [exceedsStorage])
  apply orRefuse_bind_ne (by simp [exceedsStorage])
  intro purpose
  apply refuseIf_bind_ne (by simp [exceedsStorage])
  apply refuseIf_bind_ne (by simp [exceedsStorage])
  intro h
  cases h

/-- With its hash at hand, the planner does not fail on size. -/
theorem assign_ne {policyHash : String} (hash : selectionPolicyHashFor floats sha256 policy = .ok policyHash)
    (candidates : List ForecastSelectionCandidate) :
    assignSelectionPurposes floats sha256 policy candidates ≠ .error exceedsStorage := by
  apply refuseIf_bind_ne (by simp [exceedsStorage])
  rw [hash, ok_bind]
  cases hLoop : candidates.foldlM (assignCandidate policy policyHash) Planned.start with
  | error e =>
    intro h
    cases h
    exact foldlM_ne (assignCandidate_ne policyHash) candidates Planned.start hLoop
  | ok planned =>
    rw [ok_bind]
    apply refuseIf_bind_ne (by simp [exceedsStorage])
    intro h
    cases h

theorem canonical_fits (fits : size floats (policyDocument policy.toPolicyFields) ≤ 262144) :
    ∃ bytes, canonicalSelectionPolicy floats policy = .ok bytes ∧
      bytes.length = size floats (policyDocument policy.toPolicyFields) := by
  have hLength := length_dumps floats (plain_policyDocument policy.valid)
  have hLow : symbolsSize policy.toPolicyFields + 1309 ≤ size floats (policyDocument policy.toPolicyFields) :=
    (size_bounds policy.valid).1
  refine ⟨_, canonicalSelectionPolicy_eq_ok.mpr ⟨rfl, ?_, ?_⟩, hLength⟩
  · rw [hLength]
    omega
  · rw [hLength]
    exact fits

theorem canonical_refused (large : 262144 < size floats (policyDocument policy.toPolicyFields)) :
    canonicalSelectionPolicy floats policy = .error exceedsStorage := by
  have hLength := length_dumps floats (plain_policyDocument policy.valid)
  have hRefused : ¬ (1 ≤ (dumps floats (policyDocument policy.toPolicyFields)).length ∧
      (dumps floats (policyDocument policy.toPolicyFields)).length ≤ 262144) := by
    rw [hLength]
    omega
  rw [canonicalSelectionPolicy, refuseIf_of hRefused]
  rfl

/-- A policy is encoded, read back, hashed and used in assignments when its symbols leave room for the
rest of its document; a larger one is refused by all of these, and by nothing else on account of size. -/
theorem selection_policy_size (floats : FloatText) (sha256 : Bytes → String)
    (policy : ProspectiveForecastSelectionPolicy) :
    ((dumps floats (policyDocument policy.toPolicyFields)).length = size floats (policyDocument policy.toPolicyFields) ∧
      symbolsSize policy.toPolicyFields + 1309 ≤ size floats (policyDocument policy.toPolicyFields) ∧
      size floats (policyDocument policy.toPolicyFields) ≤ symbolsSize policy.toPolicyFields + 2600 ∧
      symbolsSize policy.toPolicyFields ≤ policy.symbols.length * 35) ∧
    (size floats (policyDocument policy.toPolicyFields) ≤ 262144 →
      ∃ bytes, canonicalSelectionPolicy floats policy = .ok bytes ∧ bytes.length ≤ 262144 ∧
        parseSelectionPolicy floats bytes = .ok policy ∧
        selectionPolicyHashFor floats sha256 policy = .ok (sha256 bytes) ∧
        ∀ candidates, assignSelectionPurposes floats sha256 policy candidates ≠ .error exceedsStorage) ∧
    (262144 < size floats (policyDocument policy.toPolicyFields) →
      canonicalSelectionPolicy floats policy = .error exceedsStorage ∧
        selectionPolicyHashFor floats sha256 policy = .error exceedsStorage ∧
        ∀ candidates, 1 ≤ candidates.length → candidates.length ≤ 1000000 →
          assignSelectionPurposes floats sha256 policy candidates = .error exceedsStorage) := by
  refine ⟨⟨length_dumps floats (plain_policyDocument policy.valid), (size_bounds policy.valid).1,
    (size_bounds policy.valid).2, symbolsSize_le policy.valid⟩, ?_, ?_⟩
  · intro fits
    obtain ⟨bytes, hBytes, hLength⟩ := canonical_fits fits
    have hHash : selectionPolicyHashFor floats sha256 policy = .ok (sha256 bytes) := by
      rw [selectionPolicyHashFor, hBytes]
      rfl
    exact ⟨bytes, hBytes, hLength ▸ fits, parse_canonical hBytes, hHash, assign_ne hHash⟩
  · intro large
    have hCanonical := canonical_refused large
    have hHash : selectionPolicyHashFor floats sha256 policy = .error exceedsStorage := by
      rw [selectionPolicyHashFor, hCanonical]
      rfl
    refine ⟨hCanonical, hHash, ?_⟩
    intro candidates hSome hBounded
    rw [assignSelectionPurposes, refuseIf_of_not (not_not.mpr ⟨hSome, hBounded⟩), ok_bind, hHash]
    rfl

/-! ## Ten thousand long symbols -/

def longSymbol (n : Nat) : String := String.ofList (List.replicate 28 'A' ++ pad 4 n)

theorem toList_longSymbol (n : Nat) : (longSymbol n).toList = List.replicate 28 'A' ++ pad 4 n :=
  String.toList_ofList

theorem isPolicySymbol_longSymbol (n : Nat) : IsPolicySymbol (longSymbol n) := by
  have hDigits : (pad 4 n).all symbolChar = true := by
    apply List.all_eq_true.mpr
    intro c hc
    have hDigit := List.all_eq_true.mp (all_isDigit_pad 4 n) c hc
    simp only [isDigit, digitValue] at hDigit
    split_ifs at hDigit with hRange
    · have hLow : '0' ≤ c := hRange.1
      have hHigh : c ≤ '9' := hRange.2
      simp [symbolChar, hLow, hHigh]
    · cases hDigit
  refine ⟨⟨?_, ?_⟩, ?_⟩
  · rw [toList_longSymbol]
    simp
  · rw [toList_longSymbol, List.all_append, hDigits, Bool.and_true]
    decide
  · rw [toList_longSymbol, List.length_append, List.length_replicate, length_pad]

theorem longSymbol_injOn : ∀ a ∈ List.range 10000, ∀ b ∈ List.range 10000, longSymbol a = longSymbol b → a = b := by
  intro a ha b hb h
  have hPad : pad 4 a = pad 4 b := by
    have hLists := congrArg String.toList h
    rw [toList_longSymbol, toList_longSymbol] at hLists
    exact List.append_cancel_left hLists
  have hRead : read (pad 4 a) = read (pad 4 b) := congrArg read hPad
  rw [read_pad 4 a (by decide) (by simpa using List.mem_range.mp ha),
    read_pad 4 b (by decide) (by simpa using List.mem_range.mp hb)] at hRead
  exact Option.some.inj hRead

def longSymbols : List String := Dict.sortedSet ((List.range 10000).map longSymbol)

theorem length_longSymbols : longSymbols.length = 10000 := by
  have hNodup : ((List.range 10000).map longSymbol).Nodup :=
    List.Nodup.map_on longSymbol_injOn List.nodup_range
  rw [longSymbols, Dict.sortedSet, Finset.length_sort, List.toFinset_card_of_nodup hNodup, List.length_map,
    List.length_range]

theorem mem_longSymbols {s : String} (h : s ∈ longSymbols) : ∃ n, s = longSymbol n := by
  obtain ⟨n, -, rfl⟩ := List.mem_map.mp (Dict.mem_sortedSet.mp h)
  exact ⟨n, rfl⟩

theorem symbolsSize_longSymbols : (longSymbols.map fun s => s.toList.length + 3).sum = 350000 := by
  have hEach : longSymbols.map (fun s => s.toList.length + 3) = longSymbols.map fun _ => 35 := by
    apply List.map_congr_left
    intro s hs
    obtain ⟨n, rfl⟩ := mem_longSymbols hs
    rw [toList_longSymbol, List.length_append, List.length_replicate, length_pad]
  rw [hEach, List.map_const', List.sum_replicate_nat, length_longSymbols]

def largePolicy : ProspectiveForecastSelectionPolicy where
  toPolicyFields := { sampleFields with symbols := longSymbols }
  valid := { valid_sampleFields with
    symbolCount := by
      rw [length_longSymbols]
      decide
    symbols := by
      intro s hs
      obtain ⟨n, rfl⟩ := mem_longSymbols hs
      exact isPolicySymbol_longSymbol n
    symbolsSorted := Dict.sortedSet_pairwise_lt _ }

def plainFloats : FloatText := ⟨fun _ => 0, fun _ => ofInt 0⟩

theorem size_largePolicy : 262144 < size plainFloats (policyDocument largePolicy.toPolicyFields) := by
  have hSymbols : symbolsSize largePolicy.toPolicyFields = 350000 := symbolsSize_longSymbols
  refine Nat.lt_of_lt_of_le ?_ (size_bounds largePolicy.valid).1
  rw [hSymbols]
  decide

/-- The constructor accepts this policy and the encoder refuses it. -/
theorem largePolicy_refused : canonicalSelectionPolicy ⟨fun _ => 0, fun _ => ofInt 0⟩ largePolicy =
    .error exceedsStorage := canonical_refused size_largePolicy

theorem size_samplePolicy : size plainFloats (policyDocument samplePolicy.toPolicyFields) = 1373 := by
  refine (size_policyDocument valid_sampleFields).trans ?_
  rfl

theorem selection_policy_size_both :
    (∃ bytes, canonicalSelectionPolicy plainFloats samplePolicy = .ok bytes ∧ bytes.length ≤ 262144 ∧
      parseSelectionPolicy plainFloats bytes = .ok samplePolicy) ∧
    selectionPolicyHashFor plainFloats sampleServer.sha256 largePolicy = .error exceedsStorage := by
  obtain ⟨-, hFits, -⟩ := selection_policy_size plainFloats sampleServer.sha256 samplePolicy
  obtain ⟨-, -, hLarge⟩ := selection_policy_size plainFloats sampleServer.sha256 largePolicy
  obtain ⟨bytes, hBytes, hLength, hParse, -⟩ := hFits (by rw [size_samplePolicy]; decide)
  exact ⟨⟨bytes, hBytes, hLength, hParse⟩, (hLarge size_largePolicy).2.1⟩

end StockApi.Selection

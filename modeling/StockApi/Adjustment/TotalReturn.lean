import StockApi.Adjustment.Fold

/-!
# Total returns and the rounded factors

Without rounding, the adjusted closes of adjacent sessions have the gross total return as their
ratio. The artifact carries the fold rounded in the decimal context, which is rounding to
thirty-four digits except below the least exponent.
-/

namespace StockApi.Adjustment

open Checked CivilTime Relational Rounding Text

/-! ## One session back -/

section Adjacent

variable {inputs : FactorInputs} (valid : Validated inputs)

include valid in
/-- The fold of an observation goes one action further than that of the next session. -/
theorem factorsAfter_prev {round : ℚ → ℚ} {i : Nat} {prev next : RawCloseVersion}
    (hPrev : inputs.rawCloses[i]? = some prev) (hNext : inputs.rawCloses[i + 1]? = some next) :
    factorsAfter round inputs prev.observationDate =
      applyOn round inputs.closeOn (inputs.actionOn next.observationDate)
        (factorsAfter round inputs next.observationDate) := by
  have hPrevRows := reverse_eq_append_cons hPrev
  have hNextRows := reverse_eq_append_cons hNext
  obtain ⟨hi, hGet⟩ := List.getElem?_eq_some_iff.mp hNext
  rw [factorsAfter, factorsAfter, ← filterMap_actionOn_eq valid hPrevRows,
    ← filterMap_actionOn_eq valid hNextRows, List.drop_eq_getElem_cons hi, hGet,
    List.reverse_cons, List.filterMap_append, List.foldl_append, List.filterMap_cons]
  cases inputs.actionOn next.observationDate <;> rfl

include valid in
theorem applyAction_pos {factors : ℚ × ℚ} (h : 0 < factors.1) {action : CorporateAction}
    (hAction : action ∈ inputs.actions) : 0 < (applyAction id inputs.closeOn factors action).1 := by
  obtain ⟨row, hRow, hDate⟩ := valid.onSession action hAction
  have hClose : 0 < inputs.closeOn action.date := by
    rw [← hDate, ← closeOn_eq valid hRow]
    exact valid.positive row hRow
  rcases List.mem_append.mp hAction with hMem | hMem
  · obtain ⟨item, hItem, rfl⟩ := List.mem_map.mp hMem
    obtain ⟨hFrom, hTo⟩ := valid.splits item hItem
    exact div_pos (mul_pos h hFrom) hTo
  · obtain ⟨item, hItem, rfl⟩ := List.mem_map.mp hMem
    have hCash := valid.dividends item hItem
    exact div_pos (mul_pos h hClose) (add_pos hClose hCash)

include valid in
theorem factorsAfter_pos (date : Date) : 0 < (factorsAfter id inputs date).1 := by
  have hFold : ∀ (actions : List CorporateAction) (factors : ℚ × ℚ),
      (∀ action ∈ actions, action ∈ inputs.actions) → 0 < factors.1 →
        0 < (actions.foldl (applyAction id inputs.closeOn) factors).1 := by
    intro actions
    induction actions with
    | nil => exact fun _ _ h => h
    | cons action rest ih =>
      intro factors hActions h
      have hAction := hActions action List.mem_cons_self
      exact ih _ (fun a ha => hActions a (List.mem_cons_of_mem _ ha)) (applyAction_pos valid h hAction)
  apply hFold _ _ _ one_pos
  intro action hAction
  exact (List.mem_filter.mp (orderDesc_perm.mem_iff.mp hAction)).1

/-- The raw close of an observation times its exact factor. -/
def adjustedClose (inputs : FactorInputs) (row : RawCloseVersion) : ℚ :=
  (factorsAfter id inputs row.observationDate).1 * row.close

/-- The gross total return into a session, relative to the raw close before it. -/
def totalReturn (prev next : RawCloseVersion) : Option CorporateAction → ℚ
  | some (.dividend item) => (next.close + item.cashAmount) / prev.close
  | some (.split item) => next.close * item.splitTo / item.splitFrom / prev.close
  | none => next.close / prev.close

include valid in
theorem adjustedClose_ratio {i : Nat} {prev next : RawCloseVersion}
    (hPrev : inputs.rawCloses[i]? = some prev) (hNext : inputs.rawCloses[i + 1]? = some next) :
    adjustedClose inputs next / adjustedClose inputs prev =
      totalReturn prev next (inputs.actionOn next.observationDate) := by
  have hNextMem : next ∈ inputs.rawCloses := List.mem_of_getElem? hNext
  have hPrevPos : prev.close ≠ 0 := (valid.positive prev (List.mem_of_getElem? hPrev)).ne'
  have hNextPos : next.close ≠ 0 := (valid.positive next hNextMem).ne'
  have hFactor : (factorsAfter id inputs next.observationDate).1 ≠ 0 := (factorsAfter_pos valid _).ne'
  rw [adjustedClose, adjustedClose, factorsAfter_prev valid hPrev hNext]
  generalize factorsAfter id inputs next.observationDate = factors at hFactor
  cases hAction : inputs.actionOn next.observationDate with
  | none =>
    rw [applyOn, totalReturn]
    field_simp
  | some action =>
    obtain ⟨hMem, hDate⟩ := mem_of_actionOn hAction
    cases action with
    | split item =>
      have hSplit : item ∈ inputs.splits := by
        rcases List.mem_append.mp hMem with h | h
        · obtain ⟨other, hOther, hEq⟩ := List.mem_map.mp h
          cases hEq
          exact hOther
        · obtain ⟨other, -, hEq⟩ := List.mem_map.mp h
          cases hEq
      have hFrom : item.splitFrom ≠ 0 := (valid.splits item hSplit).1.ne'
      have hTo : item.splitTo ≠ 0 := (valid.splits item hSplit).2.ne'
      simp only [applyOn, applyAction, totalReturn, id]
      field_simp
    | dividend item =>
      have hDividend : item ∈ inputs.dividends := by
        rcases List.mem_append.mp hMem with h | h
        · obtain ⟨other, -, hEq⟩ := List.mem_map.mp h
          cases hEq
        · obtain ⟨other, hOther, hEq⟩ := List.mem_map.mp h
          cases hEq
          exact hOther
      have hClose : inputs.closeOn item.exDividendDate = next.close := by
        rw [closeOn_eq valid hNextMem, ← hDate]
        rfl
      have hSum : next.close + item.cashAmount ≠ 0 :=
        (add_pos (valid.positive next hNextMem) (valid.dividends item hDividend)).ne'
      simp only [applyOn, applyAction, totalReturn, id, hClose]
      field_simp

end Adjacent

/-! ## The rounding of the kernel -/

theorem roundsBy_decimal34 : RoundsBy decimal34 decimalContext.round := by
  intro x y h
  simp only [decimal34] at h
  split_ifs at h with hZero hOverflows
  · cases h
    rw [hZero, Format.round_zero]
  · cases h
    rfl

theorem roundsBy_exact : RoundsBy exactArithmetic id := by
  rintro x y h
  cases h
  rfl

/-- Rounding to thirty-four significant digits, ties to even. -/
def round34 : ℚ → ℚ := roundDigits 10 34

/-- From the least exponent on the context rounds to thirty-four digits. -/
theorem decimalContext_round_eq {x : ℚ} (h : 10 ^ (-999999 : ℤ) ≤ x) :
    decimalContext.round x = round34 x := by
  have hPos : 0 < x := lt_of_lt_of_le (zpow_pos (by norm_num) _) h
  apply Format.round_eq_roundDigits
  exact (Int.zpow_le_iff_le_log (by decide) hPos).mp h

/-- Below the least exponent the context rounds at a fixed place. -/
theorem decimalContext_round_eq_roundAt {x : ℚ} (hPos : 0 < x) (h : x < 10 ^ (-999999 : ℤ)) :
    decimalContext.round x = roundAt 10 (-1000032) x := by
  have hLog : Int.log 10 x < -999999 := (Int.lt_zpow_iff_log_lt (by decide) hPos).mp h
  have hLast : decimalContext.lastExponent x = -1000032 := by
    simp only [Format.lastExponent, decimalContext]
    omega
  rw [Format.round, hLast]
  rfl

/-! ## The published factors -/

/-- A row with the decimal texts and the floats of a price and a volume factor. -/
structure Publishes (factor : AdjustmentFactor) (ordinal : Nat) (values : ℚ × ℚ) : Prop where
  place : factor.rawInputOrdinal = ordinal
  priceText : factor.priceFactorDecimal = decimalText values.1
  volumeText : factor.volumeFactorDecimal = decimalText values.2
  priceBits : binary64Bits values.1 "price factor" = .ok factor.priceFactorF64Be
  volumeBits : binary64Bits values.2 "volume factor" = .ok factor.volumeFactorF64Be

theorem publishes_of_factorRow {ordinal : Nat} {values : ℚ × ℚ} {factor : AdjustmentFactor}
    (h : factorRow ordinal values.1 values.2 = .ok factor) : Publishes factor ordinal values := by
  rw [factorRow, bind_eq_ok_iff] at h
  obtain ⟨priceBits, hPrice, h⟩ := h
  rw [bind_eq_ok_iff] at h
  obtain ⟨volumeBits, hVolume, h⟩ := h
  cases h
  exact ⟨rfl, rfl, rfl, hPrice, hVolume⟩

/-- The rows are, observation by observation, those of the fold over the later actions. -/
def FoldsBy (round : ℚ → ℚ) (inputs : FactorInputs) (factors : List AdjustmentFactor) : Prop :=
  ∀ (i : Nat) (row : RawCloseVersion), inputs.rawCloses[i]? = some row →
    ∃ factor, factors[i]? = some factor ∧ Publishes factor i (factorsAfter round inputs row.observationDate)

/-- The same raw closes, and the same actions except on the first session. -/
structure SameAfterFirst (inputs other : FactorInputs) : Prop where
  raw : other.rawCloses = inputs.rawCloses
  actions : ∀ action : CorporateAction,
    (∀ first ∈ inputs.rawCloses.head?, action.date ≠ first.observationDate) →
      (action ∈ other.actions ↔ action ∈ inputs.actions)

theorem buildFactors_length {arith : Arithmetic} {inputs : FactorInputs}
    {factors : List AdjustmentFactor} (h : buildFactors arith inputs = .ok factors) :
    factors.length = inputs.rawCloses.length := by
  rw [buildFactors, bind_eq_ok_iff] at h
  obtain ⟨descending, hDescending, h⟩ := h
  cases h
  rw [List.length_reverse, factorsDescending_length hDescending, List.length_reverse]

theorem foldsBy_of_buildFactors {arith : Arithmetic} {round : ℚ → ℚ} {inputs : FactorInputs}
    (valid : Validated inputs) (rounds : RoundsBy arith round) {factors : List AdjustmentFactor}
    (h : buildFactors arith inputs = .ok factors) : FoldsBy round inputs factors := by
  intro i row hRow
  obtain ⟨factor, hFactor, hTexts⟩ := buildFactors_at valid rounds h hRow
  exact ⟨factor, hFactor, publishes_of_factorRow hTexts⟩

theorem mem_actionsAfter {inputs : FactorInputs} {date : Date} {action : CorporateAction} :
    action ∈ actionsAfter inputs date ↔ action ∈ inputs.actions ∧ date < action.date := by
  rw [actionsAfter, orderDesc_perm.mem_iff, List.mem_filter, decide_eq_true_eq]

theorem actionsAfter_descending {inputs : FactorInputs} (valid : Validated inputs) (date : Date) :
    (actionsAfter inputs date).Pairwise fun a b => b.date < a.date := by
  have hNodup : inputs.actions.Nodup := valid.single.of_map _
  apply orderDesc_strict (hNodup.filter _)
  intro a ha b hb hDate
  exact eq_of_same_date valid.single (List.mem_filter.mp ha).1 (List.mem_filter.mp hb).1 hDate

theorem first_le {inputs : FactorInputs} (valid : Validated inputs) {first row : RawCloseVersion}
    (hFirst : first ∈ inputs.rawCloses.head?) (hRow : row ∈ inputs.rawCloses) :
    first.observationDate ≤ row.observationDate := by
  have hOrdered := valid.ordered
  cases hRows : inputs.rawCloses with
  | nil =>
    rw [hRows] at hRow
    exact absurd hRow List.not_mem_nil
  | cons head rest =>
    rw [hRows] at hFirst hRow hOrdered
    cases hFirst
    rcases List.mem_cons.mp hRow with rfl | hRest
    · exact le_refl _
    · exact ((List.pairwise_cons.mp hOrdered).1 row hRest).le

theorem factorsAfter_eq_of_same {inputs other : FactorInputs} (valid : Validated inputs)
    (validOther : Validated other) (same : SameAfterFirst inputs other) {round : ℚ → ℚ}
    {row : RawCloseVersion} (hRow : row ∈ inputs.rawCloses) :
    factorsAfter round other row.observationDate = factorsAfter round inputs row.observationDate := by
  have hActions : actionsAfter other row.observationDate = actionsAfter inputs row.observationDate := by
    apply eq_of_strictly_descending (actionsAfter_descending validOther _)
      (actionsAfter_descending valid _)
    intro action
    rw [mem_actionsAfter, mem_actionsAfter]
    refine and_congr_left fun hAfter => same.actions action ?_
    intro first hFirst hDate
    have hLe := first_le valid hFirst hRow
    rw [← hDate] at hLe
    exact absurd hAfter hLe.not_gt
  have hClose : other.closeOn = inputs.closeOn := by
    funext date
    rw [FactorInputs.closeOn, FactorInputs.closeOn, same.raw]
  rw [factorsAfter, factorsAfter, hActions, hClose]

theorem buildFactors_eq_of_same {inputs other : FactorInputs} (valid : Validated inputs)
    (validOther : Validated other) (same : SameAfterFirst inputs other)
    {arith : Arithmetic} {round : ℚ → ℚ} (rounds : RoundsBy arith round)
    {factors factorsOther : List AdjustmentFactor} (h : buildFactors arith inputs = .ok factors)
    (hOther : buildFactors arith other = .ok factorsOther) : factorsOther = factors := by
  have hLength := buildFactors_length h
  have hLengthOther := buildFactors_length hOther
  rw [same.raw] at hLengthOther
  apply List.ext_getElem?
  intro i
  cases hRow : inputs.rawCloses[i]? with
  | none =>
    have hBound := List.getElem?_eq_none_iff.mp hRow
    rw [List.getElem?_eq_none (by omega), List.getElem?_eq_none (by omega)]
  | some row =>
    have hRowOther : other.rawCloses[i]? = some row := by rw [same.raw, hRow]
    obtain ⟨factor, hFactor, hTexts⟩ := buildFactors_at valid rounds h hRow
    obtain ⟨factor', hFactor', hTexts'⟩ := buildFactors_at validOther rounds hOther hRowOther
    rw [factorsAfter_eq_of_same valid validOther same (List.mem_of_getElem? hRow), hTexts] at hTexts'
    cases hTexts'
    rw [hFactor, hFactor']

theorem buildAdjustmentFactorSet_eq_ok {runtime : Runtime} {calendar : XnysCalendar}
    {policyHash : String} {inputs : FactorInputs} {set : AdjustmentFactorSet}
    (h : buildAdjustmentFactorSet runtime calendar policyHash inputs = .ok set) :
    ∃ valid, validatedInputs runtime calendar inputs = .ok valid ∧
      buildFactors decimal34 valid = .ok set.factors ∧ set.rawInputs = valid.rawCloses := by
  rw [buildAdjustmentFactorSet, bind_eq_ok_iff] at h
  obtain ⟨valid, hValid, h⟩ := h
  rw [bind_eq_ok_iff] at h
  obtain ⟨factors, hFactors, h⟩ := h
  rw [bind_eq_ok_iff] at h
  obtain ⟨anchor, -, h⟩ := h
  rw [bind_eq_ok_iff] at h
  obtain ⟨rawInputs, -, h⟩ := h
  cases h
  exact ⟨valid, hValid, hFactors, rfl⟩

theorem anchor_factors {inputs : FactorInputs} (valid : Validated inputs) {round : ℚ → ℚ}
    {anchor : RawCloseVersion} (h : inputs.rawCloses.getLast? = some anchor) :
    factorsAfter round inputs anchor.observationDate = (1, 1) := by
  have hGet : inputs.rawCloses[inputs.rawCloses.length - 1]? = some anchor := by
    rw [← List.getLast?_eq_getElem?, h]
  have hNone := filterMap_actionOn_eq valid (reverse_eq_append_cons hGet)
  have hEmpty : inputs.rawCloses.drop (inputs.rawCloses.length - 1 + 1) = [] :=
    List.drop_eq_nil_of_le (by omega)
  rw [hEmpty] at hNone
  rw [factorsAfter, ← hNone]
  rfl

/-! ## The published factors are the fold -/

/-- An accepted input gets the fold in the context's rounding, which is rounding to thirty-four
digits from the least exponent on. -/
theorem factor_set_folds_actions {runtime : Runtime} {calendar : XnysCalendar} {policyHash : String}
    {inputs : FactorInputs} {set : AdjustmentFactorSet}
    (h : buildAdjustmentFactorSet runtime calendar policyHash inputs = .ok set) :
    ∃ valid, validatedInputs runtime calendar inputs = .ok valid ∧ set.rawInputs = valid.rawCloses ∧
      set.factors.length = valid.rawCloses.length ∧
      FoldsBy decimalContext.round valid set.factors ∧
      (∀ x, 10 ^ (-999999 : ℤ) ≤ x → decimalContext.round x = round34 x) ∧
      (∀ x, 0 < x → x < 10 ^ (-999999 : ℤ) → decimalContext.round x = roundAt 10 (-1000032) x) ∧
      (∃ anchor, set.factors.getLast? = some anchor ∧
        Publishes anchor (valid.rawCloses.length - 1) (1, 1)) ∧
      (∀ other validOther setOther,
        buildAdjustmentFactorSet runtime calendar policyHash other = .ok setOther →
          validatedInputs runtime calendar other = .ok validOther →
            SameAfterFirst valid validOther → setOther.factors = set.factors) ∧
      (∀ factors, buildFactors exactArithmetic valid = .ok factors → FoldsBy id valid factors) ∧
      ∀ (i : Nat) (prev next : RawCloseVersion), valid.rawCloses[i]? = some prev →
        valid.rawCloses[i + 1]? = some next →
          (∀ item ∈ valid.dividends, item.exDividendDate = next.observationDate →
            adjustedClose valid next / adjustedClose valid prev =
              (next.close + item.cashAmount) / prev.close) ∧
          (∀ item ∈ valid.splits, item.effectiveDate = next.observationDate →
            adjustedClose valid next / adjustedClose valid prev =
              next.close * item.splitTo / item.splitFrom / prev.close) ∧
          ((∀ action ∈ valid.actions, action.date ≠ next.observationDate) →
            adjustedClose valid next / adjustedClose valid prev = next.close / prev.close) := by
  obtain ⟨valid, hInputs, hFactors, hRaw⟩ := buildAdjustmentFactorSet_eq_ok h
  obtain ⟨hValid, hNonempty⟩ := validatedInputs_eq_ok hInputs
  refine ⟨valid, hInputs, hRaw, buildFactors_length hFactors,
    foldsBy_of_buildFactors hValid roundsBy_decimal34 hFactors,
    fun x hx => decimalContext_round_eq hx, fun x hPos hx => decimalContext_round_eq_roundAt hPos hx,
    ?_, ?_, fun factors hExact => foldsBy_of_buildFactors hValid roundsBy_exact hExact, ?_⟩
  · obtain ⟨anchor, hAnchor⟩ := Option.ne_none_iff_exists'.mp (mt List.getLast?_eq_none_iff.mp hNonempty)
    have hGet : valid.rawCloses[valid.rawCloses.length - 1]? = some anchor := by
      rw [← List.getLast?_eq_getElem?, hAnchor]
    obtain ⟨factor, hFactor, hTexts⟩ := buildFactors_at hValid roundsBy_decimal34 hFactors hGet
    rw [anchor_factors hValid hAnchor] at hTexts
    refine ⟨factor, ?_, publishes_of_factorRow hTexts⟩
    rw [List.getLast?_eq_getElem?, buildFactors_length hFactors, hFactor]
  · intro other validOther setOther hOther hValidOther same
    obtain ⟨found, hFound, hFactorsOther, -⟩ := buildAdjustmentFactorSet_eq_ok hOther
    rw [hValidOther] at hFound
    cases hFound
    exact buildFactors_eq_of_same hValid (validatedInputs_eq_ok hValidOther).1 same
      roundsBy_decimal34 hFactors hFactorsOther
  · intro i prev next hPrev hNext
    have hRatio := adjustedClose_ratio hValid hPrev hNext
    refine ⟨?_, ?_, ?_⟩
    · intro item hItem hDate
      have hAction : valid.actionOn next.observationDate = some (.dividend item) :=
        (actionOn_eq_some_iff hValid.single).mpr
          ⟨List.mem_append_right _ (List.mem_map_of_mem hItem), hDate⟩
      rw [hRatio, hAction]
      rfl
    · intro item hItem hDate
      have hAction : valid.actionOn next.observationDate = some (.split item) :=
        (actionOn_eq_some_iff hValid.single).mpr
          ⟨List.mem_append_left _ (List.mem_map_of_mem hItem), hDate⟩
      rw [hRatio, hAction]
      rfl
    · intro hNone
      have hAction : valid.actionOn next.observationDate = none := by
        rw [Option.eq_none_iff_forall_ne_some]
        intro action hSome
        obtain ⟨hMem, hDate⟩ := mem_of_actionOn hSome
        exact hNone action hMem hDate
      rw [hRatio, hAction]
      rfl


/-! ## Below the least exponent -/

/-- The least normal decimal. -/
def tiny : ℚ := 10 ^ (-999999 : ℤ)

/-- Zero, a point and threes. -/
def third (n : Nat) : ℚ := (10 ^ n - 1) / 3 / 10 ^ n

theorem tiny_pos : 0 < tiny := zpow_pos (by norm_num) _

theorem tiny_eq (n : Nat) : tiny = 10 ^ n * 10 ^ (-999999 - (n : ℤ)) := by
  rw [tiny, ← zpow_natCast, ← zpow_add₀ (by norm_num)]
  congr 1
  omega

theorem log_mul_tiny {x : ℚ} {e : ℤ} (hPos : 0 < x) (hLow : 10 ^ e ≤ x) (hHigh : x < 10 ^ (e + 1)) :
    Int.log 10 (x * tiny) = e - 999999 := by
  apply log_eq_of_le_lt (by decide) (mul_pos hPos tiny_pos)
  · rw [show e - 999999 = e + -999999 by ring, Nat.cast_ofNat, zpow_add₀ (by norm_num)]
    exact mul_le_mul_of_nonneg_right hLow tiny_pos.le
  · rw [show e - 999999 + 1 = e + 1 + -999999 by ring, Nat.cast_ofNat, zpow_add₀ (by norm_num)]
    exact mul_lt_mul_of_pos_right hHigh tiny_pos

theorem apply_mul_tiny {n : Nat} (hPos : 1 ≤ n) (hDigit : n < 10) :
    decimal34.apply (n * tiny) = some (n * tiny) := by
  have hLow : (10 : ℚ) ^ (0 : ℤ) ≤ n := by exact_mod_cast hPos
  have hHigh : (n : ℚ) < 10 ^ ((0 : ℤ) + 1) := by
    rw [zero_add, zpow_one]
    exact_mod_cast hDigit
  have hn : (0 : ℚ) < n := by exact_mod_cast hPos
  have hLog := log_mul_tiny hn hLow hHigh
  have hLast : decimalContext.lastExponent (n * tiny) = -999999 - (33 : ℕ) := by
    rw [Format.lastExponent]
    simp only [decimalContext, hLog]
    omega
  have hRound : decimalContext.round (n * tiny) = n * tiny := by
    rw [Format.round, hLast]
    have hMultiple : (n : ℚ) * tiny = (n * 10 ^ 33 : ℤ) * (10 : ℕ) ^ (-999999 - ((33 : ℕ) : ℤ)) := by
      rw [tiny_eq 33, ← mul_assoc, Int.cast_mul, Int.cast_natCast, Int.cast_pow, Int.cast_ofNat,
        show ((10 : ℕ) : ℚ) = 10 from Nat.cast_ofNat]
    rw [hMultiple]
    exact roundAt_of_multiple (by decide) _ _
  have hFits : ¬ decimalContext.Overflows (n * tiny) := by
    rw [Format.Overflows]
    simp only [decimalContext, hLog]
    omega
  have hNonzero : (n : ℚ) * tiny ≠ 0 := (mul_pos hn tiny_pos).ne'
  simp only [decimal34]
  rw [if_neg hNonzero, hRound, if_neg hFits]

theorem log_third_tiny : Int.log 10 (third 34 * tiny) = -1 - 999999 :=
  log_mul_tiny (by norm_num [third]) (by norm_num [third]) (by norm_num [third])

theorem round34_third_tiny : round34 (third 34 * tiny) = third 34 * tiny := by
  have hMultiple : third 34 * tiny = ((10 ^ 34 - 1) / 3 : ℤ) * (10 : ℕ) ^ (-999999 - ((34 : ℕ) : ℤ)) := by
    rw [tiny_eq 34, ← mul_assoc]
    congr 1
    norm_num [third]
  rw [round34, roundDigits, log_third_tiny, hMultiple]
  exact roundAt_of_multiple (by decide) _ _

theorem decimalContext_round_third_tiny :
    decimalContext.round (third 34 * tiny) = third 33 * tiny := by
  rw [Format.round, Format.lastExponent]
  simp only [decimalContext, log_third_tiny]
  rw [roundAt, show (max (-1 - 999999) (-999999) - (((34 : ℕ) : ℤ) - 1) : ℤ) = -999999 - (33 : ℕ) by decide,
    Nat.cast_ofNat, tiny_eq 33, ← mul_assoc, mul_div_cancel_right₀ _ (zpow_ne_zero _ (by norm_num)),
    ← mul_assoc]
  congr 1
  decide +kernel

theorem apply_third_tiny : decimal34.apply (third 34 * tiny) = some (third 33 * tiny) := by
  have hNonzero : third 34 * tiny ≠ 0 := mul_ne_zero (by norm_num [third]) tiny_pos.ne'
  have hLog : Int.log 10 (third 33 * tiny) = -1 - 999999 :=
    log_mul_tiny (by norm_num [third]) (by norm_num [third]) (by norm_num [third])
  simp only [decimal34]
  rw [if_neg hNonzero, decimalContext_round_third_tiny, if_neg]
  simp only [Format.Overflows, decimalContext, hLog]
  decide

/-- Three sessions, each closing at 1 and received at once. -/
def sampleInstant (i : Fin 3) : Instant :=
  ⟨(738886 + i.val) * dayMicros + 75600000000, by
    have := i.isLt
    unfold maxDays dayMicros
    omega⟩

theorem sampleDate_year : 1 ≤ 2024 ∧ 2024 ≤ 9999 := by decide

theorem sampleDate_month : 1 ≤ 1 ∧ 1 ≤ 12 := by decide

def sampleDate (i : Fin 3) : Date :=
  ⟨2024, 1, 2 + i.val, sampleDate_year, sampleDate_month, by
    have hMonth : daysInMonth 2024 1 = 31 := rfl
    omega⟩

def sampleRow (i : Fin 3) : RawCloseVersion :=
  ⟨sampleDate i, sampleInstant i, "day", 1, "polygon_open_close", "raw", sampleInstant i,
    sampleInstant i, 1⟩

def sampleHash (digit : Char) : String := "sha256:" ++ String.ofList (List.replicate 64 digit)

/-- A split that leaves every factor as it is. -/
def tinySplit : SplitActionVersion :=
  ⟨"E1", sampleHash '1', sampleDate 1, tiny, tiny, .forwardSplit⟩

def tripleSplit : SplitActionVersion :=
  ⟨"E2", sampleHash '2', sampleDate 2, 1, 3, .forwardSplit⟩

def sampleRows : List RawCloseVersion := [sampleRow 0, sampleRow 1, sampleRow 2]

def sampleInputs : FactorInputs :=
  ⟨"SPY", sampleInstant 2, sampleRows, sampleHash 'a', [tinySplit, tripleSplit], sampleHash 'b', []⟩

def sampleRuntime : Runtime :=
  ⟨fun _ => [], fun _ => none, fun _ => String.ofList (List.replicate 64 '0'), id, id⟩

def sampleCalendar : XnysCalendar :=
  ⟨fun _ _ => some [sampleDate 0, sampleDate 1,
      sampleDate 2],
    fun date => if date = sampleDate 0 then sampleInstant 0
      else if date = sampleDate 1 then sampleInstant 1 else sampleInstant 2⟩

theorem positiveDecimal_tiny (label : String) : positiveDecimal decimal34 tiny label = .ok tiny := by
  have hApply : decimal34.apply tiny = some tiny := by
    have h := @apply_mul_tiny 1 (by decide) (by decide)
    rwa [Nat.cast_one, one_mul] at h
  rw [positiveDecimal, refuseIf_of_not tiny_pos.not_ge, ok_bind, hApply, orRefuse_some, ok_bind,
    refuseIf_of_not tiny_pos.not_ge]
  rfl

theorem sampleHash_toList (digit : Char) :
    (sampleHash digit).toList = ['s', 'h', 'a', '2', '5', '6', ':'] ++ List.replicate 64 digit := by
  have hDigits := @String.toList_ofList (List.replicate 64 digit)
  rw [sampleHash, String.toList_append, hDigits]
  rfl

theorem identifier_sample {value : String} (trimmed : Trimmed value) (hNonempty : value.toList ≠ [])
    (hLength : value.toList.length ≤ 256) (label : String) :
    identifier sampleRuntime value label = .ok value := by
  have hBounded : ¬ (value ≠ sampleRuntime.nfc value ∨ value.toList = [] ∨ ¬ Trimmed value ∨
      value.length > 256) := by
    rw [String.length_toList] at hLength
    simp [sampleRuntime, hNonempty, trimmed, hLength]
  rw [identifier, refuseIf_of_not hBounded]
  rfl

theorem identifier_splitEvent {last : Char} (hSpace : isSpace last = false) (label : String) :
    identifier sampleRuntime (String.ofList ['E', last]) label = .ok (String.ofList ['E', last]) := by
  have hToList : (String.ofList ['E', last]).toList = ['E', last] := String.toList_ofList
  have trimmed : Trimmed (String.ofList ['E', last]) :=
    trimmed_of_ends (congrArg List.head? hToList) (congrArg List.getLast? hToList) (by decide) hSpace
  apply identifier_sample trimmed <;> simp

theorem contentId_sampleHash {digit : Char} (hHex : hexChar digit = true)
    (hSpace : isSpace digit = false) (label : String) :
    contentId sampleRuntime (sampleHash digit) label = .ok (sampleHash digit) := by
  have trimmed : Trimmed (sampleHash digit) :=
    trimmed_of_ends (congrArg List.head? (sampleHash_toList digit))
      (congrArg List.getLast? (sampleHash_toList digit)) (by decide) hSpace
  have hHash : IsHash (sampleHash digit) := by
    simp [IsHash, sampleHash_toList, hHex]
  have hIdentifier : identifier sampleRuntime (sampleHash digit) label = .ok (sampleHash digit) := by
    apply identifier_sample trimmed <;> simp [sampleHash_toList]
  rw [contentId, hIdentifier, ok_bind, refuseIf_of_not (not_not.mpr hHash)]
  rfl

/-- What the construction of the set computes on the sample, apart from the tiny split. -/
theorem sample_computed : "SPY".toUpper = "SPY" ∧
    sampleRows.mapM (validatedRawClose sampleRuntime (sampleInstant 2)) = .ok sampleRows ∧
    (positiveDecimal decimal34 1 "split_from" = .ok 1 ∧ positiveDecimal decimal34 3 "split_to" = .ok 3) ∧
    applyActions decimal34 [tinySplit, tripleSplit] [] (sampleRow 2) 1 1 = .ok (third 34, 3) ∧
    toFloat 1 = some 1 ∧ (toFloat 3).isSome = true ∧ (toFloat (third 34)).isSome = true ∧
    (toFloat (third 33)).isSome = true := by
  decide +kernel

theorem checkSymbol_sample : checkSymbol "SPY" = .ok "SPY" := by
  have hToList : "SPY".toList = ['S', 'P', 'Y'] := rfl
  have trimmed : Trimmed "SPY" :=
    trimmed_of_ends (congrArg List.head? hToList) (congrArg List.getLast? hToList) (by decide) (by decide)
  have hSymbol : IsSymbol "SPY" := by decide
  rw [checkSymbol, refuseIf_of_not (by simp [trimmed, hSymbol, sample_computed.1])]
  rfl

theorem sampleRows_ordered :
    sampleRows.Pairwise fun a b => a.observationDate < b.observationDate := by
  decide

theorem validated_sampleRows :
    validatedRawCloses sampleRuntime sampleCalendar sampleRows (sampleInstant 2) = .ok sampleRows := by
  have hEach := sample_computed.2.1
  have hSorted : orderAsc (fun item : RawCloseVersion => item.observationDate) sampleRows = sampleRows :=
    orderAsc_eq_self sampleRows_ordered
  rw [validatedRawCloses, refuseIf_of_not (by decide), ok_bind, refuseIf_of_not (by decide), ok_bind,
    hEach, ok_bind]
  simp only [hSorted]
  decide


theorem validated_tinySplit : validatedSplit sampleRuntime sampleRows tinySplit = .ok tinySplit := by
  have hDate : actionDate tinySplit.effectiveDate "split effective_date" sampleRows =
      .ok (sampleDate 1) := by decide
  have hEvent : identifier sampleRuntime tinySplit.providerEventId "split provider_event_id" =
      .ok "E1" := identifier_splitEvent (by decide) _
  have hVersion : contentId sampleRuntime tinySplit.versionId "split version_id" =
      .ok (sampleHash '1') := contentId_sampleHash (by decide) (by decide) _
  rw [validatedSplit, hDate, ok_bind, refuseIf_of_not (by decide), ok_bind, hEvent, ok_bind, hVersion,
    ok_bind]
  simp only [tinySplit, positiveDecimal_tiny, ok_bind, pure_eq_ok]

theorem validated_sampleSplits :
    validatedSplits sampleRuntime [tinySplit, tripleSplit] sampleRows = .ok [tinySplit, tripleSplit] := by
  have hTriple : validatedSplit sampleRuntime sampleRows tripleSplit = .ok tripleSplit := by
    have hDate : actionDate tripleSplit.effectiveDate "split effective_date" sampleRows =
        .ok (sampleDate 2) := by decide
    have hEvent : identifier sampleRuntime tripleSplit.providerEventId "split provider_event_id" =
        .ok "E2" := identifier_splitEvent (by decide) _
    have hVersion : contentId sampleRuntime tripleSplit.versionId "split version_id" =
        .ok (sampleHash '2') := contentId_sampleHash (by decide) (by decide) _
    obtain ⟨hFrom, hTo⟩ := sample_computed.2.2.1
    rw [validatedSplit, hDate, ok_bind, refuseIf_of_not (by decide), ok_bind, hEvent, ok_bind,
      hVersion, ok_bind]
    simp only [tripleSplit, hFrom, hTo, ok_bind, pure_eq_ok]
  have hEach : [tinySplit, tripleSplit].mapM (validatedSplit sampleRuntime sampleRows) =
      .ok [tinySplit, tripleSplit] :=
    mapM_of_forall₂ (.cons validated_tinySplit (.cons hTriple .nil))
  have hDates : tinySplit.effectiveDate < tripleSplit.effectiveDate := by decide
  have hSorted : orderAsc (fun item : SplitActionVersion =>
      toLex (item.effectiveDate, item.providerEventId)) [tinySplit, tripleSplit] =
        [tinySplit, tripleSplit] :=
    orderAsc_eq_self (List.pairwise_pair.mpr (Prod.Lex.toLex_lt_toLex.mpr (Or.inl hDates)))
  rw [validatedSplits, hEach, ok_bind, hSorted, pure_eq_ok]

theorem validatedInputs_of_parts {runtime : Runtime} {calendar : XnysCalendar} {inputs : FactorInputs}
    (hSymbol : checkSymbol inputs.symbol = .ok inputs.symbol)
    (hSplitId : contentId runtime inputs.splitCollectionId "split_collection_id" =
      .ok inputs.splitCollectionId)
    (hDividendId : contentId runtime inputs.dividendCollectionId "dividend_collection_id" =
      .ok inputs.dividendCollectionId)
    (hDistinct : inputs.splitCollectionId ≠ inputs.dividendCollectionId)
    (hRaw : validatedRawCloses runtime calendar inputs.rawCloses inputs.cutoff = .ok inputs.rawCloses)
    (hSplits : validatedSplits runtime inputs.splits inputs.rawCloses = .ok inputs.splits)
    (hDividends : validatedDividends runtime inputs.dividends inputs.rawCloses = .ok inputs.dividends)
    (hCardinality : validateActionCardinality inputs.splits inputs.dividends = .ok ⟨⟩) :
    validatedInputs runtime calendar inputs = .ok inputs := by
  rw [validatedInputs, hSymbol, ok_bind, hSplitId, ok_bind, hDividendId, ok_bind,
    refuseIf_of_not hDistinct, ok_bind, hRaw, ok_bind, hSplits, ok_bind, hDividends, ok_bind,
    hCardinality, ok_bind, pure_eq_ok]

theorem validated_sampleInputs :
    validatedInputs sampleRuntime sampleCalendar sampleInputs = .ok sampleInputs := by
  apply validatedInputs_of_parts
  case hSymbol => exact checkSymbol_sample
  case hSplitId => exact contentId_sampleHash (by decide) (by decide) _
  case hDividendId => exact contentId_sampleHash (by decide) (by decide) _
  case hDistinct =>
    intro hSame
    have hToList := (sampleHash_toList 'a').symm.trans
      ((congrArg String.toList hSame).trans (sampleHash_toList 'b'))
    rw [List.append_cancel_left_eq, List.replicate_inj] at hToList
    exact absurd hToList.2 (by decide)
  case hRaw => exact validated_sampleRows
  case hSplits => exact validated_sampleSplits
  case hDividends =>
    change validatedDividends sampleRuntime [] sampleRows = .ok []
    rw [validatedDividends, List.mapM_nil, pure_eq_ok, ok_bind, orderAsc_eq_self .nil, pure_eq_ok]
  case hCardinality => decide

theorem exists_factorRow (ordinal : Nat) {price volume : ℚ} (hPrice : (toFloat price).isSome = true)
    (hVolume : (toFloat volume).isSome = true) :
    ∃ factor, factorRow ordinal price volume = .ok factor ∧ factor.priceFactorDecimal = decimalText price := by
  obtain ⟨priceFloat, hPriceFloat⟩ := Option.isSome_iff_exists.mp hPrice
  obtain ⟨volumeFloat, hVolumeFloat⟩ := Option.isSome_iff_exists.mp hVolume
  rw [factorRow, binary64Bits, hPriceFloat, orRefuse_some, binary64Bits, hVolumeFloat, orRefuse_some]
  exact ⟨_, rfl, rfl⟩

theorem applyActions_tinySplit :
    applyActions decimal34 [tinySplit, tripleSplit] [] (sampleRow 1) (third 34) 3 =
      .ok (third 33, 3) := by
  have hFound : [tinySplit, tripleSplit].find?
      (fun item => decide (item.effectiveDate = (sampleRow 1).observationDate)) = some tinySplit :=
    List.find?_cons_of_pos (decide_eq_true rfl)
  have hPrice : mulDiv decimal34 (third 34) tiny tiny "split price factor" = .ok (third 33) := by
    rw [mulDiv, apply_third_tiny, orRefuse_some, ok_bind, mul_div_cancel_right₀ _ tiny_pos.ne']
    decide +kernel
  have hVolume : mulDiv decimal34 3 tiny tiny "split volume factor" = .ok 3 := by
    have hApply := @apply_mul_tiny 3 (by decide) (by decide)
    rw [Nat.cast_ofNat] at hApply
    rw [mulDiv, hApply, orRefuse_some, ok_bind, mul_div_cancel_right₀ _ tiny_pos.ne']
    decide +kernel
  simp only [applyActions, hFound, splitFactors]
  simp only [tinySplit, hPrice, hVolume, ok_bind, pure_eq_ok]

theorem exists_sampleFactors :
    ∃ factors, buildFactors decimal34 sampleInputs = .ok factors ∧
      ∃ factor, factors[0]? = some factor ∧ factor.priceFactorDecimal = decimalText (third 33) := by
  obtain ⟨-, -, -, hNewest, hFloat, hThree, hLater, hEarlier⟩ := sample_computed
  have hOne : (toFloat 1).isSome = true := Option.isSome_of_eq_some hFloat
  have hOldest : applyActions decimal34 [tinySplit, tripleSplit] [] (sampleRow 0) (third 33) 3 =
      .ok (third 33, 3) := by rfl
  obtain ⟨anchor, hAnchor, -⟩ := exists_factorRow 2 hOne hOne
  obtain ⟨middle, hMiddle, -⟩ := exists_factorRow 1 hLater hThree
  obtain ⟨oldest, hOldestRow, hPrice⟩ := exists_factorRow 0 hEarlier hThree
  refine ⟨[oldest, middle, anchor], ?_, oldest, rfl, hPrice⟩
  rw [buildFactors]
  simp only [sampleInputs, sampleRows, List.reverse_cons, List.reverse_nil, List.nil_append,
    List.cons_append, factorsDescending, List.length_cons, List.length_nil, hAnchor, ok_bind, hNewest,
    hMiddle, applyActions_tinySplit, hOldestRow, hOldest]
  rfl

theorem exists_sampleSet :
    ∃ set, buildAdjustmentFactorSet sampleRuntime sampleCalendar (sampleHash '9') sampleInputs =
        .ok set ∧ ∃ factor, set.factors[0]? = some factor ∧
          factor.priceFactorDecimal = decimalText (third 33) := by
  obtain ⟨factors, hFactors, hFirst⟩ := exists_sampleFactors
  obtain ⟨bits, hBits⟩ : ∃ bits, binary64Bits 1 "raw close" = .ok bits := by
    obtain ⟨-, -, -, -, hFloat, -⟩ := sample_computed
    rw [binary64Bits, hFloat, orRefuse_some]
    exact ⟨_, rfl⟩
  have hRaw : ∃ documents, sampleRows.mapM rawInputDocument = .ok documents := by
    apply exists_mapM
    intro row hRow
    have hClose : row.close = 1 := by
      revert hRow
      revert row
      decide
    rw [rawInputDocument, hClose, hBits]
    exact ⟨_, rfl⟩
  obtain ⟨documents, hDocuments⟩ := hRaw
  rw [buildAdjustmentFactorSet, validated_sampleInputs, ok_bind, hFactors, ok_bind]
  have hLast : sampleInputs.rawCloses.getLast? = some (sampleRow 2) := rfl
  have hRows : sampleInputs.rawCloses = sampleRows := rfl
  rw [hLast, orRefuse_some, ok_bind, hRows, hDocuments]
  exact ⟨_, rfl, hFirst⟩


/-- A session with a split of the least normal decimals, before a split of one into three. -/
theorem factor_set_folds_actions_sample :
    ∃ set valid,
      buildAdjustmentFactorSet sampleRuntime sampleCalendar (sampleHash '9') sampleInputs = .ok set ∧
        validatedInputs sampleRuntime sampleCalendar sampleInputs = .ok valid ∧
          FoldsBy decimalContext.round valid set.factors := by
  obtain ⟨set, hSet, -⟩ := exists_sampleSet
  obtain ⟨valid, hValid, -, -, hFold, -⟩ := factor_set_folds_actions hSet
  exact ⟨set, valid, hSet, hValid, hFold⟩

theorem sample_actionsAfter :
    actionsAfter sampleInputs (sampleDate 0) = [.split tripleSplit, .split tinySplit] := by
  have hValid := (validatedInputs_eq_ok validated_sampleInputs).1
  have hReverse := @reverse_eq_append_cons sampleInputs.rawCloses 0 (sampleRow 0) rfl
  have hNewest : sampleInputs.actionOn (sampleDate 2) = some (.split tripleSplit) :=
    (actionOn_eq_some_iff hValid.single).mpr ⟨List.mem_cons_of_mem _ List.mem_cons_self, rfl⟩
  have hMiddle : sampleInputs.actionOn (sampleDate 1) = some (.split tinySplit) :=
    (actionOn_eq_some_iff hValid.single).mpr ⟨List.mem_cons_self, rfl⟩
  have hActions := filterMap_actionOn_eq hValid hReverse
  rw [show (sampleRow 0).observationDate = sampleDate 0 from rfl] at hActions
  rw [← hActions]
  change [sampleDate 2, sampleDate 1].filterMap sampleInputs.actionOn =
    [.split tripleSplit, .split tinySplit]
  rw [List.filterMap_cons_some hNewest, List.filterMap_cons_some hMiddle]
  rfl

/-- There the product falls below the least exponent and loses a digit. -/
theorem product_below_least_exponent :
    ∃ set, buildAdjustmentFactorSet sampleRuntime sampleCalendar (sampleHash '9') sampleInputs =
      .ok set ∧ set.rawInputs = sampleInputs.rawCloses ∧
        ¬ FoldsBy round34 sampleInputs set.factors := by
  obtain ⟨set, hSet, factor, hFactor, hPrice⟩ := exists_sampleSet
  obtain ⟨valid, hValid, -, hRaw⟩ := buildAdjustmentFactorSet_eq_ok hSet
  rw [validated_sampleInputs] at hValid
  cases hValid
  refine ⟨set, hSet, hRaw, fun hFold => ?_⟩
  obtain ⟨found, hFound, hPublishes⟩ := hFold 0 (sampleRow 0) rfl
  rw [hFactor] at hFound
  cases hFound
  have hSpec : (factorsAfter round34 sampleInputs (sampleDate 0)).1 = third 34 := by
    have hNewest : applyAction round34 sampleInputs.closeOn (1, 1) (.split tripleSplit) =
        (third 34, 3) := by decide +kernel
    rw [factorsAfter, sample_actionsAfter, List.foldl_cons, hNewest, List.foldl_cons, List.foldl_nil]
    simp only [applyAction, tinySplit]
    rw [round34_third_tiny, mul_div_cancel_right₀ _ tiny_pos.ne']
    decide +kernel
  have hDifferent : decimalText (third 34) ≠ decimalText (third 33) := by decide +kernel
  have hSame := hPublishes.priceText
  rw [hPrice] at hSame
  exact hDifferent ((congrArg decimalText hSpec).symm.trans hSame.symm)

end StockApi.Adjustment

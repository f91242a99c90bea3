import StockApi.Adjustment.Factors

/-!
# The factors as a fold over actions

The factor of an observation is a fold over the actions of the later sessions, the newest first.
With exact arithmetic the adjusted closes of adjacent sessions have the gross total return as
their ratio.
-/

namespace StockApi.Adjustment

open Checked CivilTime Relational

/-! ## The specification -/

inductive CorporateAction
  | split (item : SplitActionVersion)
  | dividend (item : DividendActionVersion)
deriving DecidableEq

/-- The session an action applies on. -/
def CorporateAction.date : CorporateAction → Date
  | .split item => item.effectiveDate
  | .dividend item => item.exDividendDate

def FactorInputs.actions (inputs : FactorInputs) : List CorporateAction :=
  inputs.splits.map .split ++ inputs.dividends.map .dividend

/-- The raw close of a session. -/
def FactorInputs.closeOn (inputs : FactorInputs) (date : Date) : ℚ :=
  ((inputs.rawCloses.find? fun row => decide (row.observationDate = date)).map fun row => row.close).getD 0

section Specification

variable (round : ℚ → ℚ) (close : Date → ℚ)

/-- One action applied to the price and the volume factor. -/
def applyAction (factors : ℚ × ℚ) : CorporateAction → ℚ × ℚ
  | .split item =>
    (round (round (factors.1 * item.splitFrom) / item.splitTo),
      round (round (factors.2 * item.splitTo) / item.splitFrom))
  | .dividend item =>
    (round (round (factors.1 * close item.exDividendDate) /
      round (close item.exDividendDate + item.cashAmount)), factors.2)

/-- The actions strictly after a date, the newest first. -/
def actionsAfter (inputs : FactorInputs) (date : Date) : List CorporateAction :=
  orderDesc CorporateAction.date (inputs.actions.filter fun action => decide (date < action.date))

/-- The price and the volume factor of an observation. -/
def factorsAfter (inputs : FactorInputs) (date : Date) : ℚ × ℚ :=
  (actionsAfter inputs date).foldl (applyAction round inputs.closeOn) (1, 1)

end Specification

/-! ## Validated inputs -/

/-- What the fold needs of the inputs it gets. -/
structure Validated (inputs : FactorInputs) : Prop where
  ordered : inputs.rawCloses.Pairwise fun a b => a.observationDate < b.observationDate
  positive : ∀ row ∈ inputs.rawCloses, 0 < row.close
  splits : ∀ item ∈ inputs.splits, 0 < item.splitFrom ∧ 0 < item.splitTo
  dividends : ∀ item ∈ inputs.dividends, 0 < item.cashAmount
  onSession : ∀ action ∈ inputs.actions,
    ∃ row ∈ inputs.rawCloses, row.observationDate = action.date
  single : (inputs.actions.map CorporateAction.date).Nodup

theorem positive_of_positiveDecimal {arith : Arithmetic} {value result : ℚ} {label : String}
    (h : positiveDecimal arith value label = .ok result) : 0 < result := by
  rw [positiveDecimal, refuseIf_bind_eq_ok_iff, bind_eq_ok_iff] at h
  obtain ⟨-, normalized, -, h⟩ := h
  rw [refuseIf_bind_eq_ok_iff, pure_eq_ok] at h
  obtain ⟨hPositive, h⟩ := h
  cases h
  exact not_le.mp hPositive

theorem mem_of_actionDate {value date : Date} {label : String} {raw : List RawCloseVersion}
    (h : actionDate value label raw = .ok date) : ∃ row ∈ raw, row.observationDate = date := by
  rw [actionDate, refuseIf_bind_eq_ok_iff, refuseIf_bind_eq_ok_iff, pure_eq_ok] at h
  obtain ⟨-, hSession, h⟩ := h
  cases h
  exact List.mem_map.mp (not_not.mp hSession)

theorem positive_of_validatedRawClose {runtime : Runtime} {cutoff : Instant}
    {item row : RawCloseVersion} (h : validatedRawClose runtime cutoff item = .ok row) :
    0 < row.close := by
  rw [validatedRawClose, refuseIf_bind_eq_ok_iff, refuseIf_bind_eq_ok_iff, refuseIf_bind_eq_ok_iff,
    refuseIf_bind_eq_ok_iff, refuseIf_bind_eq_ok_iff, refuseIf_bind_eq_ok_iff, bind_eq_ok_iff] at h
  obtain ⟨-, -, -, -, -, -, close, hClose, h⟩ := h
  cases h
  rw [canonicalRawClose, bind_eq_ok_iff] at hClose
  obtain ⟨supplied, -, hClose⟩ := hClose
  rw [bind_eq_ok_iff] at hClose
  obtain ⟨converted, -, hClose⟩ := hClose
  exact positive_of_positiveDecimal hClose

theorem mem_of_mapM {ε α β : Type} {f : α → Except ε β} {xs : List α} {ys : List β}
    (h : xs.mapM f = .ok ys) {y : β} (hy : y ∈ ys) : ∃ x ∈ xs, f x = .ok y := by
  have hEach := forall₂_of_mapM h
  obtain ⟨i, hi, rfl⟩ := List.getElem_of_mem hy
  have hLength : i < xs.length := by rw [hEach.length_eq]; exact hi
  exact ⟨xs[i], List.getElem_mem hLength, hEach.get hLength hi⟩

theorem validatedRawCloses_eq_ok {runtime : Runtime} {calendar : XnysCalendar} {cutoff : Instant}
    {values rows : List RawCloseVersion}
    (h : validatedRawCloses runtime calendar values cutoff = .ok rows) :
    (rows.Pairwise fun a b => a.observationDate < b.observationDate) ∧
      (∀ row ∈ rows, 0 < row.close) ∧ rows ≠ [] := by
  rw [validatedRawCloses, refuseIf_bind_eq_ok_iff, refuseIf_bind_eq_ok_iff, bind_eq_ok_iff] at h
  obtain ⟨hNonempty, -, validated, hRows, h⟩ := h
  rw [refuseIf_bind_eq_ok_iff, bind_eq_ok_iff] at h
  obtain ⟨hUnique, expected, -, h⟩ := h
  rw [refuseIf_bind_eq_ok_iff, refuseIf_bind_eq_ok_iff, refuseIf_bind_eq_ok_iff,
    refuseIf_bind_eq_ok_iff, refuseIf_bind_eq_ok_iff, pure_eq_ok] at h
  obtain ⟨-, -, -, -, -, h⟩ := h
  cases h
  have hPerm : (orderAsc (fun item : RawCloseVersion => item.observationDate) validated).Perm
      validated := orderAsc_perm
  refine ⟨?_, ?_, ?_⟩
  · have hDates : (validated.map fun item => item.observationDate).Nodup :=
      (hPerm.map _).nodup_iff.mp (not_not.mp hUnique)
    exact orderAsc_strict hDates
  · intro row hRow
    obtain ⟨item, -, hItem⟩ := mem_of_mapM hRows (hPerm.mem_iff.mp hRow)
    exact positive_of_validatedRawClose hItem
  · intro hEmpty
    have hLength := (forall₂_of_mapM hRows).length_eq
    rw [← hPerm.length_eq, hEmpty, List.length_nil, List.length_eq_zero_iff] at hLength
    exact hNonempty hLength

theorem validatedSplit_eq_ok {runtime : Runtime} {raw : List RawCloseVersion}
    {item valid : SplitActionVersion} (h : validatedSplit runtime raw item = .ok valid) :
    (0 < valid.splitFrom ∧ 0 < valid.splitTo) ∧
      ∃ row ∈ raw, row.observationDate = valid.effectiveDate := by
  rw [validatedSplit, bind_eq_ok_iff] at h
  obtain ⟨date, hDate, h⟩ := h
  rw [refuseIf_bind_eq_ok_iff, bind_eq_ok_iff] at h
  obtain ⟨-, eventId, -, h⟩ := h
  rw [bind_eq_ok_iff] at h
  obtain ⟨versionId, -, h⟩ := h
  rw [bind_eq_ok_iff] at h
  obtain ⟨splitFrom, hFrom, h⟩ := h
  rw [bind_eq_ok_iff] at h
  obtain ⟨splitTo, hTo, h⟩ := h
  cases h
  exact ⟨⟨positive_of_positiveDecimal hFrom, positive_of_positiveDecimal hTo⟩,
    mem_of_actionDate hDate⟩

theorem validatedDividend_eq_ok {runtime : Runtime} {raw : List RawCloseVersion}
    {item valid : DividendActionVersion} (h : validatedDividend runtime raw item = .ok valid) :
    0 < valid.cashAmount ∧ ∃ row ∈ raw, row.observationDate = valid.exDividendDate := by
  rw [validatedDividend, bind_eq_ok_iff] at h
  obtain ⟨date, hDate, h⟩ := h
  rw [refuseIf_bind_eq_ok_iff, refuseIf_bind_eq_ok_iff, bind_eq_ok_iff] at h
  obtain ⟨-, -, eventId, -, h⟩ := h
  rw [bind_eq_ok_iff] at h
  obtain ⟨versionId, -, h⟩ := h
  rw [bind_eq_ok_iff] at h
  obtain ⟨cash, hCash, h⟩ := h
  cases h
  exact ⟨positive_of_positiveDecimal hCash, mem_of_actionDate hDate⟩

theorem validatedInputs_eq_ok {runtime : Runtime} {calendar : XnysCalendar}
    {inputs valid : FactorInputs} (h : validatedInputs runtime calendar inputs = .ok valid) :
    Validated valid ∧ valid.rawCloses ≠ [] := by
  rw [validatedInputs, bind_eq_ok_iff] at h
  obtain ⟨symbol, -, h⟩ := h
  rw [bind_eq_ok_iff] at h
  obtain ⟨splitCollection, -, h⟩ := h
  rw [bind_eq_ok_iff] at h
  obtain ⟨dividendCollection, -, h⟩ := h
  rw [refuseIf_bind_eq_ok_iff, bind_eq_ok_iff] at h
  obtain ⟨-, raw, hRaw, h⟩ := h
  rw [bind_eq_ok_iff] at h
  obtain ⟨splits, hSplits, h⟩ := h
  rw [bind_eq_ok_iff] at h
  obtain ⟨dividends, hDividends, h⟩ := h
  rw [bind_eq_ok_iff] at h
  obtain ⟨_, hCardinality, h⟩ := h
  cases h
  obtain ⟨hOrdered, hPositive, hNonempty⟩ := validatedRawCloses_eq_ok hRaw
  have hSplit : ∀ item ∈ splits, (0 < item.splitFrom ∧ 0 < item.splitTo) ∧
      ∃ row ∈ raw, row.observationDate = item.effectiveDate := by
    intro item hItem
    rw [validatedSplits, bind_eq_ok_iff] at hSplits
    obtain ⟨normalized, hMap, hSplits⟩ := hSplits
    cases hSplits
    obtain ⟨value, -, hValue⟩ := mem_of_mapM hMap (orderAsc_perm.mem_iff.mp hItem)
    exact validatedSplit_eq_ok hValue
  have hDividend : ∀ item ∈ dividends, 0 < item.cashAmount ∧
      ∃ row ∈ raw, row.observationDate = item.exDividendDate := by
    intro item hItem
    rw [validatedDividends, bind_eq_ok_iff] at hDividends
    obtain ⟨normalized, hMap, hDividends⟩ := hDividends
    cases hDividends
    obtain ⟨value, -, hValue⟩ := mem_of_mapM hMap (orderAsc_perm.mem_iff.mp hItem)
    exact validatedDividend_eq_ok hValue
  refine ⟨⟨hOrdered, hPositive, fun item hItem => (hSplit item hItem).1,
    fun item hItem => (hDividend item hItem).1, ?_, ?_⟩, hNonempty⟩
  · intro action hAction
    rcases List.mem_append.mp hAction with hMem | hMem
    · obtain ⟨item, hItem, rfl⟩ := List.mem_map.mp hMem
      exact (hSplit item hItem).2
    · obtain ⟨item, hItem, rfl⟩ := List.mem_map.mp hMem
      exact (hDividend item hItem).2
  · rw [validateActionCardinality, refuseIf_bind_eq_ok_iff, refuseIf_bind_eq_ok_iff,
        refuseIf_eq_ok_iff] at hCardinality
    rw [FactorInputs.actions, List.map_append, List.map_map, List.map_map]
    exact not_not.mp hCardinality.2.2

/-! ## The action of a session -/

/-- The action the loop finds on a session. -/
def FactorInputs.actionOn (inputs : FactorInputs) (date : Date) : Option CorporateAction :=
  match inputs.splits.find? fun item => decide (item.effectiveDate = date) with
  | some split => some (.split split)
  | none =>
    (inputs.dividends.find? fun item => decide (item.exDividendDate = date)).map .dividend

theorem eq_of_same_date {inputs : FactorInputs}
    (single : (inputs.actions.map CorporateAction.date).Nodup) {a b : CorporateAction}
    (ha : a ∈ inputs.actions) (hb : b ∈ inputs.actions) (h : a.date = b.date) : a = b :=
  List.inj_on_of_nodup_map single ha hb h

theorem mem_of_actionOn {inputs : FactorInputs} {date : Date} {action : CorporateAction}
    (h : inputs.actionOn date = some action) : action ∈ inputs.actions ∧ action.date = date := by
  rw [FactorInputs.actionOn] at h
  cases hSplit : inputs.splits.find? fun item => decide (item.effectiveDate = date) with
  | some split =>
    rw [hSplit] at h
    cases h
    have hDate : split.effectiveDate = date := by simpa using List.find?_some hSplit
    exact ⟨List.mem_append_left _ (List.mem_map_of_mem (List.mem_of_find?_eq_some hSplit)), hDate⟩
  | none =>
    rw [hSplit] at h
    obtain ⟨dividend, hDividend, rfl⟩ := Option.map_eq_some_iff.mp h
    have hDate : dividend.exDividendDate = date := by simpa using List.find?_some hDividend
    exact ⟨List.mem_append_right _ (List.mem_map_of_mem (List.mem_of_find?_eq_some hDividend)),
      hDate⟩

theorem actionOn_isSome {inputs : FactorInputs} {action : CorporateAction}
    (h : action ∈ inputs.actions) : ∃ found, inputs.actionOn action.date = some found := by
  rw [FactorInputs.actionOn]
  cases hSplit : inputs.splits.find? fun item => decide (item.effectiveDate = action.date) with
  | some split => exact ⟨_, rfl⟩
  | none =>
    rcases List.mem_append.mp h with hMem | hMem
    · obtain ⟨item, hItem, rfl⟩ := List.mem_map.mp hMem
      have hNot := List.find?_eq_none.mp hSplit item hItem
      exact absurd (decide_eq_true rfl) hNot
    · obtain ⟨item, hItem, rfl⟩ := List.mem_map.mp hMem
      have hFound : (inputs.dividends.find? fun other =>
          decide (other.exDividendDate = item.exDividendDate)).isSome = true := by
        rw [List.find?_isSome]
        exact ⟨item, hItem, decide_eq_true rfl⟩
      obtain ⟨dividend, hDividend⟩ := Option.isSome_iff_exists.mp hFound
      exact ⟨.dividend dividend, Option.map_eq_some_iff.mpr ⟨dividend, hDividend, rfl⟩⟩

theorem actionOn_eq_some_iff {inputs : FactorInputs}
    (single : (inputs.actions.map CorporateAction.date).Nodup) {date : Date}
    {action : CorporateAction} :
    inputs.actionOn date = some action ↔ action ∈ inputs.actions ∧ action.date = date := by
  constructor
  · exact mem_of_actionOn
  · rintro ⟨hMem, rfl⟩
    obtain ⟨found, hFound⟩ := actionOn_isSome hMem
    obtain ⟨hFoundMem, hDate⟩ := mem_of_actionOn hFound
    rw [hFound, eq_of_same_date single hFoundMem hMem hDate]

/-! ## The loop -/

/-- What an operation yields is its exact result, rounded. -/
def RoundsBy (arith : Arithmetic) (round : ℚ → ℚ) : Prop :=
  ∀ x y, arith.apply x = some y → y = round x

section Loop

variable {arith : Arithmetic} {round : ℚ → ℚ} (rounds : RoundsBy arith round)

include rounds in
theorem mulDiv_eq {left numerator denominator result : ℚ} {label : String}
    (h : mulDiv arith left numerator denominator label = .ok result) :
    result = round (round (left * numerator) / denominator) ∧ 0 < result := by
  rw [mulDiv, bind_eq_ok_iff] at h
  obtain ⟨product, hProduct, h⟩ := h
  rw [bind_eq_ok_iff] at h
  obtain ⟨quotient, hQuotient, h⟩ := h
  rw [finitePositive, refuseIf_bind_eq_ok_iff, pure_eq_ok] at h
  obtain ⟨hPositive, h⟩ := h
  cases h
  rw [orRefuse_eq_ok_iff] at hProduct hQuotient
  rw [← rounds _ _ hProduct, ← rounds _ _ hQuotient]
  exact ⟨rfl, not_le.mp hPositive⟩

include rounds in
theorem add_eq {left right result : ℚ} {label : String}
    (h : add arith left right label = .ok result) : result = round (left + right) := by
  rw [add, bind_eq_ok_iff] at h
  obtain ⟨sum, hSum, h⟩ := h
  rw [finitePositive, refuseIf_bind_eq_ok_iff, pure_eq_ok] at h
  cases h.2
  exact rounds _ _ (orRefuse_eq_ok_iff.mp hSum)

/-- The action of the session, if there is one. -/
def applyOn (round : ℚ → ℚ) (close : Date → ℚ) (found : Option CorporateAction)
    (factors : ℚ × ℚ) : ℚ × ℚ :=
  match found with
  | some action => applyAction round close factors action
  | none => factors

include rounds in
theorem applyActions_eq {inputs : FactorInputs} {close : Date → ℚ} {row : RawCloseVersion}
    {price volume : ℚ} {factors : ℚ × ℚ} (hClose : row.close = close row.observationDate)
    (h : applyActions arith inputs.splits inputs.dividends row price volume = .ok factors) :
    factors = applyOn round close (inputs.actionOn row.observationDate) (price, volume) := by
  rw [applyActions] at h
  rw [FactorInputs.actionOn]
  cases hSplit : inputs.splits.find? fun item =>
      decide (item.effectiveDate = row.observationDate) with
  | some split =>
    simp only [hSplit] at h
    rw [splitFactors, bind_eq_ok_iff] at h
    obtain ⟨price', hPrice, h⟩ := h
    rw [bind_eq_ok_iff] at h
    obtain ⟨volume', hVolume, h⟩ := h
    cases h
    rw [(mulDiv_eq rounds hPrice).1, (mulDiv_eq rounds hVolume).1]
    rfl
  | none =>
    simp only [hSplit] at h
    cases hDividend : inputs.dividends.find? fun item =>
        decide (item.exDividendDate = row.observationDate) with
    | none =>
      simp only [hDividend] at h
      cases h
      rfl
    | some dividend =>
      simp only [hDividend] at h
      have hDate : dividend.exDividendDate = row.observationDate := by
        simpa using List.find?_some hDividend
      rw [dividendFactors, bind_eq_ok_iff] at h
      obtain ⟨denominator, hSum, h⟩ := h
      rw [bind_eq_ok_iff] at h
      obtain ⟨price', hPrice, h⟩ := h
      cases h
      rw [(mulDiv_eq rounds hPrice).1, add_eq rounds hSum, hClose, ← hDate]
      rfl

include rounds in
/-- The loop emits the row of an observation before it applies that session's action. -/
theorem factorsDescending_at {inputs : FactorInputs} {close : Date → ℚ}
    {rows : List RawCloseVersion} {price volume : ℚ} {factors : List AdjustmentFactor}
    (closes : ∀ row ∈ rows, row.close = close row.observationDate)
    (h : factorsDescending arith inputs.splits inputs.dividends rows price volume = .ok factors)
    {newer older : List RawCloseVersion} {row : RawCloseVersion}
    (hRows : rows = newer ++ row :: older) :
    ∃ factor values, factors[newer.length]? = some factor ∧
      factorRow older.length values.1 values.2 = .ok factor ∧
      values = (newer.filterMap fun item => inputs.actionOn item.observationDate).foldl
        (applyAction round close) (price, volume) := by
  induction newer generalizing rows price volume factors with
  | nil =>
    subst hRows
    rw [List.nil_append, factorsDescending, bind_eq_ok_iff] at h
    obtain ⟨factor, hFactor, h⟩ := h
    rw [bind_eq_ok_iff] at h
    obtain ⟨next, -, h⟩ := h
    rw [bind_eq_ok_iff] at h
    obtain ⟨rest, -, h⟩ := h
    cases h
    exact ⟨factor, (price, volume), rfl, hFactor, rfl⟩
  | cons first newer ih =>
    subst hRows
    rw [List.cons_append, factorsDescending, bind_eq_ok_iff] at h
    obtain ⟨_, -, h⟩ := h
    rw [bind_eq_ok_iff] at h
    obtain ⟨next, hNext, h⟩ := h
    rw [bind_eq_ok_iff] at h
    obtain ⟨rest, hRest, h⟩ := h
    cases h
    have hFirst := closes first List.mem_cons_self
    have hApplied := applyActions_eq rounds hFirst hNext
    obtain ⟨factor, values, hFactor, hRow, hFold⟩ :=
      ih (fun item hItem => closes item (List.mem_cons_of_mem _ hItem)) hRest rfl
    refine ⟨factor, values, hFactor, hRow, ?_⟩
    rw [hFold, show (next.1, next.2) = next from rfl, hApplied, List.filterMap_cons]
    cases inputs.actionOn first.observationDate <;> rfl

theorem factorsDescending_length {splits : List SplitActionVersion}
    {dividends : List DividendActionVersion} {rows : List RawCloseVersion} {price volume : ℚ}
    {factors : List AdjustmentFactor}
    (h : factorsDescending arith splits dividends rows price volume = .ok factors) :
    factors.length = rows.length := by
  induction rows generalizing price volume factors with
  | nil =>
    cases h
    rfl
  | cons row older ih =>
    rw [factorsDescending, bind_eq_ok_iff] at h
    obtain ⟨_, -, h⟩ := h
    rw [bind_eq_ok_iff] at h
    obtain ⟨next, -, h⟩ := h
    rw [bind_eq_ok_iff] at h
    obtain ⟨rest, hRest, h⟩ := h
    cases h
    rw [List.length_cons, List.length_cons, ih hRest]

end Loop

/-! ## The loop is the fold -/

section Fold

variable {inputs : FactorInputs} (valid : Validated inputs)

include valid in
theorem closeOn_eq {row : RawCloseVersion} (h : row ∈ inputs.rawCloses) :
    row.close = inputs.closeOn row.observationDate := by
  have hFound : inputs.rawCloses.find?
      (fun other => decide (other.observationDate = row.observationDate)) = some row := by
    cases hFind : inputs.rawCloses.find?
        fun other => decide (other.observationDate = row.observationDate) with
    | none => exact absurd (decide_eq_true rfl) (List.find?_eq_none.mp hFind row h)
    | some other =>
      have hDate : other.observationDate = row.observationDate := by
        simpa using List.find?_some hFind
      have hDates : (inputs.rawCloses.map fun item => item.observationDate).Nodup :=
        List.pairwise_map.mpr (valid.ordered.imp fun hLt => hLt.ne)
      rw [List.inj_on_of_nodup_map hDates (List.mem_of_find?_eq_some hFind) h hDate]
  rw [FactorInputs.closeOn, hFound]
  rfl

theorem eq_of_strictly_descending {α : Type} {date : α → Date} {xs ys : List α}
    (hxs : xs.Pairwise fun a b => date b < date a) (hys : ys.Pairwise fun a b => date b < date a)
    (h : ∀ a, a ∈ xs ↔ a ∈ ys) : xs = ys := by
  have hxsNodup : xs.Nodup := hxs.imp fun {a b} hLt hEq => (hEq ▸ hLt).ne rfl
  have hysNodup : ys.Nodup := hys.imp fun {a b} hLt hEq => (hEq ▸ hLt).ne rfl
  have hPerm : xs.Perm ys := (List.perm_ext_iff_of_nodup hxsNodup hysNodup).mpr h
  exact hPerm.eq_of_pairwise (fun a b _ _ hab hba => absurd hab hba.asymm) hxs hys

include valid in
/-- The actions the loop has met before a row are those after the row's date. -/
theorem filterMap_actionOn_eq {newer older : List RawCloseVersion} {row : RawCloseVersion}
    (hRows : inputs.rawCloses.reverse = newer ++ row :: older) :
    (newer.filterMap fun item => inputs.actionOn item.observationDate) =
      actionsAfter inputs row.observationDate := by
  have hDescending : (newer ++ row :: older).Pairwise fun a b =>
      b.observationDate < a.observationDate := by
    rw [← hRows]
    exact List.pairwise_reverse.mpr valid.ordered
  obtain ⟨hNewer, hOlder, hBetween⟩ := List.pairwise_append.mp hDescending
  have hMem : ∀ item, item ∈ inputs.rawCloses ↔ item ∈ newer ∨ item = row ∨ item ∈ older := by
    intro item
    rw [← List.mem_reverse, hRows, List.mem_append, List.mem_cons]
  have hActionsNodup : inputs.actions.Nodup := valid.single.of_map _
  apply @eq_of_strictly_descending _ CorporateAction.date
  · refine List.pairwise_filterMap.mpr (hNewer.imp ?_)
    intro a b hLt x hx y hy
    rw [(mem_of_actionOn hx).2, (mem_of_actionOn hy).2]
    exact hLt
  · apply orderDesc_strict (hActionsNodup.filter _)
    intro a ha b hb hDate
    exact eq_of_same_date valid.single (List.mem_filter.mp ha).1 (List.mem_filter.mp hb).1 hDate
  · intro action
    rw [List.mem_filterMap, actionsAfter, orderDesc_perm.mem_iff, List.mem_filter,
      decide_eq_true_eq]
    constructor
    · rintro ⟨item, hItem, hAction⟩
      obtain ⟨hActionMem, hDate⟩ := mem_of_actionOn hAction
      rw [hDate]
      exact ⟨hActionMem, hBetween item hItem row List.mem_cons_self⟩
    · rintro ⟨hAction, hAfter⟩
      obtain ⟨item, hItem, hDate⟩ := valid.onSession action hAction
      rw [← hDate] at hAfter
      refine ⟨item, ?_, (actionOn_eq_some_iff valid.single).mpr ⟨hAction, hDate.symm⟩⟩
      rcases (hMem item).mp hItem with hNew | rfl | hOld
      · exact hNew
      · exact absurd hAfter (lt_irrefl _)
      · exact absurd hAfter ((List.pairwise_cons.mp hOlder).1 item hOld).asymm

theorem reverse_eq_append_cons {rows : List RawCloseVersion} {i : Nat} {row : RawCloseVersion}
    (h : rows[i]? = some row) :
    rows.reverse = (rows.drop (i + 1)).reverse ++ row :: (rows.take i).reverse := by
  obtain ⟨hi, hGet⟩ := List.getElem?_eq_some_iff.mp h
  have hSplit : rows = rows.take i ++ row :: rows.drop (i + 1) := by
    rw [← hGet, ← List.drop_eq_getElem_cons hi, List.take_append_drop]
  conv_lhs => rw [hSplit]
  rw [List.reverse_append, List.reverse_cons, List.append_assoc, List.singleton_append]

include valid in
/-- The row of an observation is that of the fold over the later actions. -/
theorem buildFactors_at {arith : Arithmetic} {round : ℚ → ℚ} (rounds : RoundsBy arith round)
    {factors : List AdjustmentFactor} (h : buildFactors arith inputs = .ok factors) {i : Nat}
    {row : RawCloseVersion} (hRow : inputs.rawCloses[i]? = some row) :
    ∃ factor, factors[i]? = some factor ∧
      factorRow i (factorsAfter round inputs row.observationDate).1
        (factorsAfter round inputs row.observationDate).2 = .ok factor := by
  rw [buildFactors, bind_eq_ok_iff] at h
  obtain ⟨descending, hDescending, h⟩ := h
  cases h
  obtain ⟨hi, -⟩ := List.getElem?_eq_some_iff.mp hRow
  have hReverse := reverse_eq_append_cons hRow
  obtain ⟨factor, values, hFactor, hTexts, hFold⟩ := factorsDescending_at rounds
    (fun item hItem => closeOn_eq valid (List.mem_reverse.mp hItem)) hDescending hReverse
  have hLength := factorsDescending_length hDescending
  rw [List.length_reverse] at hLength
  rw [List.length_reverse, List.length_take_of_le hi.le] at hTexts
  refine ⟨factor, ?_, ?_⟩
  · rw [List.getElem?_reverse (by rw [hLength]; exact hi), hLength]
    rw [List.length_reverse, List.length_drop] at hFactor
    rw [show inputs.rawCloses.length - 1 - i = inputs.rawCloses.length - (i + 1) by omega]
    exact hFactor
  · rw [filterMap_actionOn_eq valid hReverse] at hFold
    rw [factorsAfter, ← hFold]
    exact hTexts

end Fold

end StockApi.Adjustment

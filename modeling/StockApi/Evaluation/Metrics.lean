import StockApi.Features.Scaling
import StockApi.Library.Averages

/-!
# Forecast accuracy and calibration metrics

Each metric is an average over the pairs of an outcome and a forecast. Values and arithmetic are exact,
so that no result is non-finite; the square root is given.
-/

namespace StockApi.Evaluation

open Checked Averages
open Features (greatestMagnitude)

section Metrics

variable {K : Type} [Field K] [LinearOrder K]

def finiteValues (values : List K) (name : String) : Except String (List K) := do
  refuseIf (values = []) (name ++ " must be a non-empty finite sequence")
  return values

def pairedValues (actual predicted : List K) : Except String (List K × List K) := do
  let actualValues ← finiteValues actual "actual"
  let predictedValues ← finiteValues predicted "predicted"
  refuseIf (actualValues.length ≠ predictedValues.length) "actual and predicted must have equal lengths"
  return (actualValues, predictedValues)

def probability (value : K) (name : String) : Except String K := do
  refuseIf (¬ (0 < value ∧ value < 1)) (name ++ " must be a finite probability strictly between 0 and 1")
  return value

def meanAbsoluteError (actual predicted : List K) : Except String K := do
  let (actualValues, predictedValues) ← pairedValues actual predicted
  return ((actualValues.zip predictedValues).map fun p => |p.1 - p.2| / (actualValues.length : K)).sum

def rootMeanSquaredError (sqrt : K → K) (actual predicted : List K) : Except String K := do
  let (actualValues, predictedValues) ← pairedValues actual predicted
  let errors := (actualValues.zip predictedValues).map fun p => p.1 - p.2
  let scale := greatestMagnitude errors
  return if scale = 0 then 0
    else scale * sqrt ((errors.map fun error => (error / scale) ^ 2).sum / (errors.length : K))

def pinballLoss (actual predictedQuantile : List K) (quantile : K) : Except String K := do
  let (actualValues, predictedValues) ← pairedValues actual predictedQuantile
  let level ← probability quantile "quantile"
  return ((actualValues.zip predictedValues).map fun p =>
    max (level * (p.1 - p.2)) ((level - 1) * (p.1 - p.2)) / (actualValues.length : K)).sum

def addCovered (covered : Nat) (row : K × K × K) : Except String Nat := do
  refuseIf (row.2.2 < row.2.1) "lower bounds must be less than or equal to upper bounds"
  return covered + if row.2.1 ≤ row.1 ∧ row.1 ≤ row.2.2 then 1 else 0

def empiricalIntervalCoverage (actual lower upper : List K) : Except String K := do
  let actualValues ← finiteValues actual "actual"
  let lowerValues ← finiteValues lower "lower"
  let upperValues ← finiteValues upper "upper"
  refuseIf (¬ (actualValues.length = lowerValues.length ∧ lowerValues.length = upperValues.length))
    "actual, lower, and upper must have equal lengths"
  let covered ← (actualValues.zip (lowerValues.zip upperValues)).foldlM addCovered 0
  return (covered : K) / (actualValues.length : K)

def safeMean (values : List K) : K :=
  let scale := greatestMagnitude values
  if scale = 0 then 0 else scale * (values.map fun value => value / scale / (values.length : K)).sum

/-! ## Metrics as averages -/

/-- What `math.sqrt` computes on exact values. -/
def IsSquareRoot (sqrt : K → K) : Prop := ∀ x, 0 ≤ x → 0 ≤ sqrt x ∧ sqrt x ^ 2 = x

omit [Field K] [LinearOrder K] in
theorem finiteValues_eq_ok {values out : List K} {name : String} :
    finiteValues values name = .ok out ↔ out = values ∧ values ≠ [] := by
  rw [finiteValues, refuseIf_bind_eq_ok_iff, pure_eq_ok, Except.ok.injEq, and_comm]
  exact and_congr_left fun _ => eq_comm

theorem probability_eq_ok {value out : K} {name : String} :
    probability value name = .ok out ↔ out = value ∧ 0 < value ∧ value < 1 := by
  rw [probability, refuseIf_bind_eq_ok_iff, not_not, pure_eq_ok, Except.ok.injEq, and_comm]
  exact and_congr_left fun _ => eq_comm

omit [Field K] in
theorem foldlM_addCovered {rows : List (K × K × K)} {covered out : Nat} :
    rows.foldlM addCovered covered = .ok out ↔ (∀ r ∈ rows, r.2.1 ≤ r.2.2) ∧
      out = covered + (rows.map fun r => if r.2.1 ≤ r.1 ∧ r.1 ≤ r.2.2 then 1 else 0).sum := by
  induction rows generalizing covered with
  | nil => simp [eq_comm]
  | cons r rest ih =>
    rw [List.foldlM_cons, addCovered, bind_assoc, refuseIf_bind_eq_ok_iff, pure_bind, ih, List.forall_mem_cons, not_lt,
      List.map_cons, List.sum_cons, Nat.add_assoc, and_assoc]

section Columns

variable {ι : Type} {rows : List ι}

omit [LinearOrder K] in
theorem sum_div_length (f : ι → K) : (rows.map fun r => f r / (rows.length : K)).sum = mean (rows.map f) := by
  simp only [mean, List.length_map, div_eq_mul_inv, List.sum_map_mul_right]

variable (nonempty : rows ≠ [])
include nonempty

omit [Field K] [LinearOrder K] in
theorem finiteValues_column (f : ι → K) (name : String) : finiteValues (rows.map f) name = .ok (rows.map f) :=
  finiteValues_eq_ok.mpr ⟨rfl, fun hNil => nonempty (List.map_eq_nil_iff.mp hNil)⟩

omit [Field K] [LinearOrder K] in
theorem pairedValues_columns (f g : ι → K) :
    pairedValues (rows.map f) (rows.map g) = .ok (rows.map f, rows.map g) := by
  have hLength : ¬ (rows.map f).length ≠ (rows.map g).length := by
    rw [List.length_map, List.length_map, not_not]
  rw [pairedValues, finiteValues_column nonempty, ok_bind, finiteValues_column nonempty, ok_bind,
    refuseIf_of_not hLength]
  rfl

theorem meanAbsoluteError_columns (f g : ι → K) :
    meanAbsoluteError (rows.map f) (rows.map g) = .ok (mean (rows.map fun r => |f r - g r|)) := by
  rw [meanAbsoluteError, pairedValues_columns nonempty, ok_bind]
  dsimp only
  rw [List.zip_map', List.map_map, List.length_map, ← sum_div_length]
  rfl

theorem pinballLoss_columns (f g : ι → K) {level : K} (range : 0 < level ∧ level < 1) :
    pinballLoss (rows.map f) (rows.map g) level =
      .ok (mean (rows.map fun r => max (level * (f r - g r)) ((level - 1) * (f r - g r)))) := by
  rw [pinballLoss, pairedValues_columns nonempty, ok_bind]
  dsimp only
  rw [probability_eq_ok.mpr ⟨rfl, range⟩, ok_bind, List.zip_map', List.map_map, List.length_map, ← sum_div_length]
  rfl

/-- The share of the rows whose outcome lies in its interval. -/
theorem empiricalIntervalCoverage_columns (f lower upper : ι → K) {out : K} :
    empiricalIntervalCoverage (rows.map f) (rows.map lower) (rows.map upper) = .ok out ↔
      (∀ r ∈ rows, lower r ≤ upper r) ∧
        out = mean (rows.map fun r => if lower r ≤ f r ∧ f r ≤ upper r then 1 else 0) := by
  have hLengths : ¬ ¬ ((rows.map f).length = (rows.map lower).length ∧
      (rows.map lower).length = (rows.map upper).length) := by
    simp only [List.length_map, and_self, not_true_eq_false, not_false_eq_true]
  have hZip : (rows.map f).zip ((rows.map lower).zip (rows.map upper)) =
      rows.map fun r => (f r, lower r, upper r) := by
    rw [List.zip_map', List.zip_map']
  have hCast : ∀ xs : List ι, (((xs.map fun r => if lower r ≤ f r ∧ f r ≤ upper r then 1 else 0).sum : Nat) : K) =
      (xs.map fun r => if lower r ≤ f r ∧ f r ≤ upper r then (1 : K) else 0).sum := by
    intro xs
    induction xs with
    | nil => exact Nat.cast_zero
    | cons r rest ih =>
      rw [List.map_cons, List.sum_cons, Nat.cast_add, ih, List.map_cons, List.sum_cons]
      congr 1
      split_ifs
      · exact Nat.cast_one
      · exact Nat.cast_zero
  rw [empiricalIntervalCoverage, finiteValues_column nonempty, ok_bind, finiteValues_column nonempty, ok_bind,
    finiteValues_column nonempty, ok_bind, refuseIf_of_not hLengths, ok_bind, hZip, bind_eq_ok_iff]
  simp only [foldlM_addCovered, List.forall_mem_map, List.map_map, Function.comp_def, Nat.zero_add, pure_eq_ok,
    Except.ok.injEq, List.length_map]
  rw [mean, ← hCast, List.length_map]
  constructor
  · rintro ⟨covered, ⟨hOrder, rfl⟩, hOut⟩
    exact ⟨hOrder, hOut.symm⟩
  · rintro ⟨hOrder, rfl⟩
    exact ⟨_, ⟨hOrder, rfl⟩, rfl⟩

end Columns

section Ordered

variable [IsStrictOrderedRing K] {sqrt : K → K}

theorem IsSquareRoot.eq_sqrt (lawful : IsSquareRoot sqrt) {x r : K} (nonneg : 0 ≤ r) (h : r ^ 2 = x) : r = sqrt x := by
  have hSquare : 0 ≤ x := h ▸ sq_nonneg r
  obtain ⟨hRoot, hSq⟩ := lawful x hSquare
  exact (pow_left_inj₀ nonneg hRoot two_ne_zero).mp (h.trans hSq.symm)

theorem IsSquareRoot.sqrt_scale (lawful : IsSquareRoot sqrt) {c x : K} (pos : 0 ≤ c) (nonneg : 0 ≤ x) :
    sqrt (c ^ 2 * x) = c * sqrt x := by
  obtain ⟨hRoot, hSq⟩ := lawful x nonneg
  refine (lawful.eq_sqrt (mul_nonneg pos hRoot) ?_).symm
  rw [mul_pow, hSq]

theorem IsSquareRoot.le_sqrt (lawful : IsSquareRoot sqrt) {x r : K} (nonneg : 0 ≤ x) (h : r ^ 2 ≤ x) : r ≤ sqrt x := by
  obtain ⟨hRoot, hSq⟩ := lawful x nonneg
  exact le_of_sq_le_sq (h.trans hSq.ge) hRoot

theorem rootMeanSquaredError_columns (lawful : IsSquareRoot sqrt) {ι : Type} {rows : List ι} (nonempty : rows ≠ [])
    (f g : ι → K) : rootMeanSquaredError sqrt (rows.map f) (rows.map g) =
      .ok (sqrt (mean (rows.map fun r => (f r - g r) ^ 2))) := by
  have hErrors : ((rows.map f).zip (rows.map g)).map (fun p => p.1 - p.2) = rows.map fun r => f r - g r := by
    rw [List.zip_map', List.map_map]
    rfl
  rw [rootMeanSquaredError, pairedValues_columns nonempty, ok_bind]
  dsimp only
  rw [hErrors]
  generalize hScale : greatestMagnitude (rows.map fun r => f r - g r) = scale
  refine congrArg Except.ok ?_
  split_ifs with hZero
  · have hNone := Features.eq_zero_of_greatestMagnitude (hScale.trans hZero)
    have hSquares : (rows.map fun r => (f r - g r) ^ 2).sum = 0 := by
      apply List.sum_eq_zero
      intro x hx
      obtain ⟨r, hr, rfl⟩ := List.mem_map.mp hx
      rw [hNone _ (List.mem_map_of_mem hr), zero_pow two_ne_zero]
    apply lawful.eq_sqrt le_rfl
    rw [mean, hSquares, zero_div, zero_pow two_ne_zero]
  · have hPositive : 0 ≤ scale := by
      rw [← hScale]
      exact Features.greatestMagnitude_nonneg _
    have hScaled : mean (rows.map fun r => (f r - g r) ^ 2) = scale ^ 2 *
        ((((rows.map fun r => f r - g r).map fun error => (error / scale) ^ 2).sum) /
          (((rows.map fun r => f r - g r).length : Nat) : K)) := by
      have hMean : (((rows.map fun r => f r - g r).map fun error => (error / scale) ^ 2).sum) /
          (((rows.map fun r => f r - g r).length : Nat) : K) =
          mean (rows.map fun r => (f r - g r) ^ 2 / scale ^ 2) := by
        rw [mean, List.map_map, List.length_map, List.length_map]
        simp only [Function.comp_def, div_pow]
      rw [hMean, mean_div, mul_div_cancel₀ _ (pow_ne_zero 2 hZero)]
    rw [hScaled, lawful.sqrt_scale hPositive]
    apply div_nonneg _ (Nat.cast_nonneg _)
    apply List.sum_nonneg
    intro x hx
    obtain ⟨error, -, rfl⟩ := List.mem_map.mp hx
    exact sq_nonneg _

/-- Scaling by the greatest magnitude and back is exact. -/
theorem safeMean_eq (values : List K) : safeMean values = mean values := by
  unfold safeMean
  dsimp only
  split_ifs with hZero
  · rw [mean, List.sum_eq_zero (Features.eq_zero_of_greatestMagnitude hZero), zero_div]
  · have hSum : (values.map fun v => v / greatestMagnitude values / (values.length : K)).sum =
        mean (values.map fun v => v / greatestMagnitude values) := sum_div_length _
    rw [hSum, mean_div, List.map_id', mul_div_cancel₀ _ hZero]

end Ordered

end Metrics

end StockApi.Evaluation

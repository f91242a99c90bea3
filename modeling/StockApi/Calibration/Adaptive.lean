import StockApi.Calibration.Conformal
import StockApi.Library.ProjectedWalk
import Mathlib.Algebra.BigOperators.Group.List.Lemmas
import Mathlib.Data.Fintype.Basic

/-!
# Adaptive miscoverage

`aci_transition` moves the miscoverage level by `gamma * (target - error)` and projects it to the
bounds of its state. The arithmetic is exact, so nothing overflows. Along any outcomes the level is a
projected walk, and the distance it has moved accounts for the misses.
-/

namespace StockApi.Calibration

open Checked

/-- `_open_probability`. -/
def openProbability (value : Scalar) (name : String) :
    Except ConformalError {q : ℚ // 0 < q ∧ q < 1} := do
  let converted ← finite value name
  if h : 0 < converted ∧ converted < 1 then .ok ⟨converted, h⟩
  else .error (.validation (name ++ " must be strictly between zero and one"))

/-- `_positive_finite`. -/
def positiveFinite (value : Scalar) (name : String) : Except ConformalError {q : ℚ // 0 < q} := do
  let converted ← finite value name
  if h : 0 < converted then .ok ⟨converted, h⟩
  else .error (.validation (name ++ " must be positive"))

/-- `_nonnegative_integer`. -/
def nonnegativeInteger (value : Int) (name : String) : Except ConformalError Nat :=
  if value < 0 then .error (.validation (name ++ " must be a nonnegative integer"))
  else .ok value.toNat

/-- A guard whose condition the state keeps. -/
def ensure (c : Prop) [Decidable c] (message : String) : Except ConformalError (PLift c) :=
  if h : c then .ok ⟨h⟩ else .error (.validation message)

def aciPolicyVersion : String := "projected-aci-v1"

/-- What `ACIState` is called with. -/
structure ACIArguments where
  targetMiscoverage : Scalar
  currentMiscoverage : Scalar
  learningRate : Scalar
  minimumMiscoverage : Scalar
  maximumMiscoverage : Scalar
  updateCount : Int
  missCount : Int
  algorithmVersion : String

structure ACIState where
  targetMiscoverage : {q : ℚ // 0 < q ∧ q < 1}
  currentMiscoverage : {q : ℚ // 0 < q ∧ q < 1}
  learningRate : {q : ℚ // 0 < q}
  minimumMiscoverage : {q : ℚ // 0 < q ∧ q < 1}
  maximumMiscoverage : {q : ℚ // 0 < q ∧ q < 1}
  updateCount : Nat
  missCount : Nat
  algorithmVersion : String
  target_within : minimumMiscoverage.1 ≤ targetMiscoverage.1 ∧
    targetMiscoverage.1 ≤ maximumMiscoverage.1
  current_within : minimumMiscoverage.1 ≤ currentMiscoverage.1 ∧
    currentMiscoverage.1 ≤ maximumMiscoverage.1
  misses_le : missCount ≤ updateCount
  supported : algorithmVersion = aciPolicyVersion
deriving DecidableEq

/-- `ACIState.__post_init__`. -/
def aciState (a : ACIArguments) : Except ConformalError ACIState := do
  let target ← openProbability a.targetMiscoverage "target_miscoverage"
  let current ← openProbability a.currentMiscoverage "current_miscoverage"
  let learningRate ← positiveFinite a.learningRate "learning_rate"
  let minimum ← openProbability a.minimumMiscoverage "minimum_miscoverage"
  let maximum ← openProbability a.maximumMiscoverage "maximum_miscoverage"
  let hTarget ← ensure (minimum.1 ≤ target.1 ∧ target.1 ≤ maximum.1)
    "target_miscoverage must be within the projection bounds"
  let hCurrent ← ensure (minimum.1 ≤ current.1 ∧ current.1 ≤ maximum.1)
    "current_miscoverage must be within the projection bounds"
  let updates ← nonnegativeInteger a.updateCount "update_count"
  let misses ← nonnegativeInteger a.missCount "miss_count"
  let hMisses ← ensure (misses ≤ updates) "miss_count cannot exceed update_count"
  let hVersion ← ensure (a.algorithmVersion = aciPolicyVersion)
    "ACI algorithm_version is not supported"
  return ⟨target, current, learningRate, minimum, maximum, updates, misses, a.algorithmVersion,
    hTarget.down, hCurrent.down, hMisses.down, hVersion.down⟩

def ACIState.arguments (s : ACIState) : ACIArguments where
  targetMiscoverage := .real s.targetMiscoverage.1
  currentMiscoverage := .real s.currentMiscoverage.1
  learningRate := .real s.learningRate.1
  minimumMiscoverage := .real s.minimumMiscoverage.1
  maximumMiscoverage := .real s.maximumMiscoverage.1
  updateCount := s.updateCount
  missCount := s.missCount
  algorithmVersion := s.algorithmVersion

/-- The level before it is projected. -/
def ACIState.raw (s : ACIState) (missed : Bool) : ℚ :=
  let error : ℚ := if missed then 1 else 0
  let delta := s.learningRate.1 * (s.targetMiscoverage.1 - error)
  s.currentMiscoverage.1 + delta

/-- `aci_transition`. -/
def aciTransition (state : ACIState) (missed : Bool) : Except ConformalError ACIState :=
  let projected := min state.maximumMiscoverage.1
    (max state.minimumMiscoverage.1 (state.raw missed))
  aciState { state.arguments with
    currentMiscoverage := .real projected
    updateCount := state.updateCount + 1
    missCount := state.missCount + missed.toNat }

/-- What the lower bound adds in one transition. -/
def ACIState.addedBelow (s : ACIState) (missed : Bool) : ℚ :=
  max s.minimumMiscoverage.1 (s.raw missed) - s.raw missed

/-- What the upper bound removes in one transition. -/
def ACIState.removedAbove (s : ACIState) (missed : Bool) : ℚ :=
  max s.minimumMiscoverage.1 (s.raw missed) -
    min s.maximumMiscoverage.1 (max s.minimumMiscoverage.1 (s.raw missed))

/-- An amount of each transition, summed along the run over the outcomes. -/
def totalAlong (amount : ACIState → Bool → ℚ) : ACIState → List Bool → ℚ
  | _, [] => 0
  | s, missed :: rest =>
    match aciTransition s missed with
    | .ok t => amount s missed + totalAlong amount t rest
    | .error _ => amount s missed

/-- Two states that differ in their level and their counts at most. -/
structure ACIState.SameParameters (s t : ACIState) : Prop where
  target : s.targetMiscoverage = t.targetMiscoverage
  rate : s.learningRate = t.learningRate
  minimum : s.minimumMiscoverage = t.minimumMiscoverage
  maximum : s.maximumMiscoverage = t.maximumMiscoverage

/-! ## One transition -/

theorem openProbability_real (q : {q : ℚ // 0 < q ∧ q < 1}) (name : String) :
    openProbability (.real q.1) name = .ok q := dif_pos q.2

theorem positiveFinite_real (q : {q : ℚ // 0 < q}) (name : String) :
    positiveFinite (.real q.1) name = .ok q := dif_pos q.2

theorem nonnegativeInteger_natCast (n : Nat) (name : String) :
    nonnegativeInteger n name = .ok n := by
  rw [nonnegativeInteger, if_neg (by omega), Int.toNat_natCast]

theorem ensure_of {c : Prop} [Decidable c] (h : c) (message : String) :
    ensure c message = .ok ⟨h⟩ := dif_pos h

/-- The fields of a state are arguments that it is constructed from. -/
theorem aciState_arguments (s : ACIState) : aciState s.arguments = .ok s := by
  have hVersion : s.arguments.algorithmVersion = aciPolicyVersion := s.supported
  rw [aciState, ensure_of hVersion]
  simp only [ACIState.arguments, openProbability_real, positiveFinite_real,
    nonnegativeInteger_natCast, ok_bind, ensure_of s.target_within, ensure_of s.current_within,
    ensure_of s.misses_le, pure_eq_ok]

theorem ACIState.bounds_le (s : ACIState) : s.minimumMiscoverage.1 ≤ s.maximumMiscoverage.1 :=
  s.target_within.1.trans s.target_within.2

theorem ACIState.project_within (s : ACIState) (x : ℚ) :
    s.minimumMiscoverage.1 ≤ ProjectedWalk.project s.minimumMiscoverage.1 s.maximumMiscoverage.1 x ∧
      ProjectedWalk.project s.minimumMiscoverage.1 s.maximumMiscoverage.1 x ≤ s.maximumMiscoverage.1 :=
  ProjectedWalk.project_mem s.bounds_le x

/-- The state that a transition leads to. -/
def ACIState.next (s : ACIState) (missed : Bool) : ACIState where
  targetMiscoverage := s.targetMiscoverage
  currentMiscoverage :=
    ⟨ProjectedWalk.project s.minimumMiscoverage.1 s.maximumMiscoverage.1 (s.raw missed),
      s.minimumMiscoverage.2.1.trans_le (s.project_within _).1,
      (s.project_within _).2.trans_lt s.maximumMiscoverage.2.2⟩
  learningRate := s.learningRate
  minimumMiscoverage := s.minimumMiscoverage
  maximumMiscoverage := s.maximumMiscoverage
  updateCount := s.updateCount + 1
  missCount := s.missCount + missed.toNat
  algorithmVersion := s.algorithmVersion
  target_within := s.target_within
  current_within := s.project_within _
  misses_le := Nat.add_le_add s.misses_le missed.toNat_le
  supported := s.supported

theorem aciTransition_eq (s : ACIState) (missed : Bool) :
    aciTransition s missed = .ok (s.next missed) := by
  have hArguments : (s.next missed).arguments = { s.arguments with
      currentMiscoverage := .real (min s.maximumMiscoverage.1
        (max s.minimumMiscoverage.1 (s.raw missed)))
      updateCount := s.updateCount + 1
      missCount := s.missCount + missed.toNat } := by
    rw [ACIState.arguments, ACIState.next]
    push_cast
    rfl
  rw [aciTransition, ← hArguments]
  exact aciState_arguments (s.next missed)

theorem ACIState.next_same (s : ACIState) (missed : Bool) : (s.next missed).SameParameters s :=
  ⟨rfl, rfl, rfl, rfl⟩

theorem ACIState.SameParameters.trans {s t u : ACIState} (h : s.SameParameters t)
    (h' : t.SameParameters u) : s.SameParameters u :=
  ⟨h.1.trans h'.1, h.2.trans h'.2, h.3.trans h'.3, h.4.trans h'.4⟩

/-! ## Runs over outcomes -/

/-- The increment of one outcome. -/
def ACIState.increment (s : ACIState) (missed : Bool) : ℚ :=
  s.learningRate.1 * (s.targetMiscoverage.1 - if missed then 1 else 0)

theorem ACIState.SameParameters.increment {s t : ACIState} (h : s.SameParameters t) :
    s.increment = t.increment := by
  funext missed
  rw [ACIState.increment, ACIState.increment, h.target, h.rate]

theorem ACIState.next_current (s : ACIState) (missed : Bool) :
    (s.next missed).currentMiscoverage.1 = ProjectedWalk.step s.minimumMiscoverage.1
      s.maximumMiscoverage.1 s.currentMiscoverage.1 (s.increment missed) := rfl

def ACIState.after (s : ACIState) (outcomes : List Bool) : ACIState :=
  outcomes.foldl ACIState.next s

theorem run_eq (s : ACIState) (outcomes : List Bool) :
    outcomes.foldlM aciTransition s = .ok (s.after outcomes) := by
  induction outcomes generalizing s with
  | nil => rfl
  | cons missed rest ih =>
    rw [List.foldlM_cons, aciTransition_eq, ok_bind, ih]
    rfl

theorem ACIState.after_same (s : ACIState) (outcomes : List Bool) :
    (s.after outcomes).SameParameters s := by
  induction outcomes generalizing s with
  | nil => exact ⟨rfl, rfl, rfl, rfl⟩
  | cons missed rest ih => exact (ih (s.next missed)).trans (s.next_same missed)

theorem ACIState.after_counts (s : ACIState) (outcomes : List Bool) :
    (s.after outcomes).updateCount = s.updateCount + outcomes.length ∧
      (s.after outcomes).missCount = s.missCount + outcomes.count true := by
  induction outcomes generalizing s with
  | nil => exact ⟨rfl, rfl⟩
  | cons missed rest ih =>
    obtain ⟨hUpdates, hMisses⟩ := ih (s.next missed)
    have hAfter : s.after (missed :: rest) = (s.next missed).after rest := rfl
    have hNext : (s.next missed).updateCount = s.updateCount + 1 ∧
        (s.next missed).missCount = s.missCount + missed.toNat := ⟨rfl, rfl⟩
    rw [hAfter, hUpdates, hMisses, hNext.1, hNext.2, List.length_cons]
    cases missed
    · exact ⟨by omega, by rw [List.count_cons_of_ne (by decide), Bool.toNat_false, Nat.add_zero]⟩
    · exact ⟨by omega, by rw [List.count_cons_self, Bool.toNat_true]; omega⟩

section Walk

variable (s : ACIState) (outcomes : List Bool)

/-- The level along a run is a walk projected to the bounds. -/
theorem ACIState.after_current : (s.after outcomes).currentMiscoverage.1 =
    ProjectedWalk.walk s.minimumMiscoverage.1 s.maximumMiscoverage.1 s.currentMiscoverage.1
      (outcomes.map s.increment) := by
  induction outcomes generalizing s with
  | nil => rfl
  | cons missed rest ih =>
    have hAfter : s.after (missed :: rest) = (s.next missed).after rest := rfl
    rw [hAfter, ih, (s.next_same missed).increment, ACIState.next_current]
    rfl

theorem sum_increments : (outcomes.map s.increment).sum = s.learningRate.1 *
    (outcomes.length * s.targetMiscoverage.1 - outcomes.count true) := by
  induction outcomes with
  | nil => simp
  | cons missed rest ih =>
    rw [List.map_cons, List.sum_cons, ih, ACIState.increment, List.length_cons]
    cases missed
    · rw [List.count_cons_of_ne (by decide), if_neg (by decide)]
      push_cast
      ring
    · rw [List.count_cons_self, if_pos rfl]
      push_cast
      ring

end Walk

theorem ACIState.addedBelow_eq (s : ACIState) (missed : Bool) : s.addedBelow missed =
    ProjectedWalk.added s.minimumMiscoverage.1 (s.currentMiscoverage.1 + s.increment missed) := by
  rw [ACIState.addedBelow, ← max_sub_sub_right, sub_self, max_comm]
  rfl

theorem ACIState.removedAbove_eq (s : ACIState) (missed : Bool) : s.removedAbove missed =
    ProjectedWalk.removed s.minimumMiscoverage.1 s.maximumMiscoverage.1
      (s.currentMiscoverage.1 + s.increment missed) := by
  rw [ACIState.removedAbove, ← max_sub_sub_left, sub_self, max_comm]
  rfl

theorem totalAlong_cons (amount : ACIState → Bool → ℚ) (s : ACIState) (missed : Bool)
    (rest : List Bool) : totalAlong amount s (missed :: rest) =
      amount s missed + totalAlong amount (s.next missed) rest := by
  rw [totalAlong, aciTransition_eq]

theorem totalAlong_addedBelow (s : ACIState) (outcomes : List Bool) :
    totalAlong ACIState.addedBelow s outcomes =
      ProjectedWalk.totalAdded s.minimumMiscoverage.1 s.maximumMiscoverage.1
        s.currentMiscoverage.1 (outcomes.map s.increment) := by
  induction outcomes generalizing s with
  | nil => rfl
  | cons missed rest ih =>
    rw [totalAlong_cons, ih, (s.next_same missed).increment, ACIState.next_current, s.addedBelow_eq]
    rfl

theorem totalAlong_removedAbove (s : ACIState) (outcomes : List Bool) :
    totalAlong ACIState.removedAbove s outcomes =
      ProjectedWalk.totalRemoved s.minimumMiscoverage.1 s.maximumMiscoverage.1
        s.currentMiscoverage.1 (outcomes.map s.increment) := by
  induction outcomes generalizing s with
  | nil => rfl
  | cons missed rest ih =>
    rw [totalAlong_cons, ih, (s.next_same missed).increment, ACIState.next_current,
      s.removedAbove_eq]
    rfl

theorem totals_nonneg (s : ACIState) (outcomes : List Bool) :
    0 ≤ totalAlong ACIState.addedBelow s outcomes ∧
      0 ≤ totalAlong ACIState.removedAbove s outcomes := by
  rw [totalAlong_addedBelow, totalAlong_removedAbove]
  exact ProjectedWalk.totals_nonneg _ _ _ _

/-- The distance a run has moved is its misses against the target, and what the bounds did. -/
theorem moved_eq (s : ACIState) (outcomes : List Bool) :
    (s.after outcomes).currentMiscoverage.1 - s.currentMiscoverage.1 =
      s.learningRate.1 * (outcomes.length * s.targetMiscoverage.1 - outcomes.count true) +
        totalAlong ACIState.addedBelow s outcomes -
        totalAlong ACIState.removedAbove s outcomes := by
  rw [s.after_current, ProjectedWalk.walk_eq, sum_increments, totalAlong_addedBelow,
    totalAlong_removedAbove]
  ring

theorem misses_eq (s : ACIState) (outcomes : List Bool) :
    (outcomes.count true : ℚ) = outcomes.length * s.targetMiscoverage.1 +
      (s.currentMiscoverage.1 - (s.after outcomes).currentMiscoverage.1) / s.learningRate.1 +
      (totalAlong ACIState.addedBelow s outcomes - totalAlong ACIState.removedAbove s outcomes) /
        s.learningRate.1 := by
  have hRate : s.learningRate.1 ≠ 0 := s.learningRate.2.ne'
  have hMoved := moved_eq s outcomes
  field_simp
  linarith

theorem after_ordered {s t : ACIState} (same : s.SameParameters t)
    (h : s.currentMiscoverage.1 ≤ t.currentMiscoverage.1) (outcomes : List Bool) :
    (s.after outcomes).currentMiscoverage.1 ≤ (t.after outcomes).currentMiscoverage.1 ∧
      (t.after outcomes).currentMiscoverage.1 - (s.after outcomes).currentMiscoverage.1 ≤
        t.currentMiscoverage.1 - s.currentMiscoverage.1 := by
  rw [s.after_current, t.after_current, same.increment, same.minimum, same.maximum]
  exact ProjectedWalk.walk_ordered _ _ h _

theorem ACIState.after_append (s : ACIState) (before rest : List Bool) :
    s.after (before ++ rest) = (s.after before).after rest := List.foldl_append

/-- Adaptive updates never leave the valid states and keep their budget of misses, and two runs over
the same outcomes keep their order and never move apart. -/
theorem miss_budget (s : ACIState) (outcomes : List Bool) :
    (∀ before rest, before ++ rest = outcomes → ∃ t,
      before.foldlM aciTransition s = .ok t ∧ aciState t.arguments = .ok t) ∧
    (∃ t, outcomes.foldlM aciTransition s = .ok t ∧ t.SameParameters s ∧
      t.updateCount = s.updateCount + outcomes.length ∧
      t.missCount = s.missCount + outcomes.count true ∧
      0 ≤ totalAlong ACIState.addedBelow s outcomes ∧
      0 ≤ totalAlong ACIState.removedAbove s outcomes ∧
      t.currentMiscoverage.1 - s.currentMiscoverage.1 =
        s.learningRate.1 * (outcomes.length * s.targetMiscoverage.1 - outcomes.count true) +
          totalAlong ACIState.addedBelow s outcomes -
          totalAlong ACIState.removedAbove s outcomes ∧
      (totalAlong ACIState.addedBelow s outcomes = 0 →
        totalAlong ACIState.removedAbove s outcomes = 0 →
        (outcomes.count true : ℚ) = outcomes.length * s.targetMiscoverage.1 +
          (s.currentMiscoverage.1 - t.currentMiscoverage.1) / s.learningRate.1) ∧
      (totalAlong ACIState.addedBelow s outcomes = 0 →
        (outcomes.count true : ℚ) ≤ outcomes.length * s.targetMiscoverage.1 +
          (s.currentMiscoverage.1 - t.currentMiscoverage.1) / s.learningRate.1) ∧
      (totalAlong ACIState.removedAbove s outcomes = 0 →
        outcomes.length * s.targetMiscoverage.1 +
          (s.currentMiscoverage.1 - t.currentMiscoverage.1) / s.learningRate.1 ≤
            (outcomes.count true : ℚ))) ∧
    (∀ s' : ACIState, s.SameParameters s' → s.currentMiscoverage.1 ≤ s'.currentMiscoverage.1 →
      ∀ before rest, before ++ rest = outcomes → ∃ t t' u u',
        before.foldlM aciTransition s = .ok t ∧ before.foldlM aciTransition s' = .ok t' ∧
        outcomes.foldlM aciTransition s = .ok u ∧ outcomes.foldlM aciTransition s' = .ok u' ∧
        t.currentMiscoverage.1 ≤ t'.currentMiscoverage.1 ∧
        u.currentMiscoverage.1 ≤ u'.currentMiscoverage.1 ∧
        t'.currentMiscoverage.1 - t.currentMiscoverage.1 ≤
          s'.currentMiscoverage.1 - s.currentMiscoverage.1 ∧
        u'.currentMiscoverage.1 - u.currentMiscoverage.1 ≤
          t'.currentMiscoverage.1 - t.currentMiscoverage.1) := by
  have hRate : 0 < s.learningRate.1 := s.learningRate.2
  refine ⟨?_, ?_, ?_⟩
  · intro before _ _
    exact ⟨s.after before, run_eq s before, aciState_arguments _⟩
  · obtain ⟨hUpdates, hMisses⟩ := s.after_counts outcomes
    obtain ⟨hAdded, hRemoved⟩ := totals_nonneg s outcomes
    have hCount := misses_eq s outcomes
    refine ⟨s.after outcomes, run_eq s outcomes, s.after_same outcomes, hUpdates, hMisses, hAdded,
      hRemoved, moved_eq s outcomes, ?_, ?_, ?_⟩
    · intro hLower hUpper
      rw [hCount, hLower, hUpper, sub_zero, zero_div, add_zero]
    · intro hLower
      have hExtra : (totalAlong ACIState.addedBelow s outcomes -
          totalAlong ACIState.removedAbove s outcomes) / s.learningRate.1 ≤ 0 := by
        apply div_nonpos_of_nonpos_of_nonneg _ hRate.le
        rw [hLower, zero_sub]
        exact neg_nonpos.mpr hRemoved
      linarith
    · intro hUpper
      have hExtra : 0 ≤ (totalAlong ACIState.addedBelow s outcomes -
          totalAlong ACIState.removedAbove s outcomes) / s.learningRate.1 := by
        apply div_nonneg _ hRate.le
        rw [hUpper, sub_zero]
        exact hAdded
      linarith
  · rintro s' same h before rest rfl
    obtain ⟨hOrder, hGap⟩ := after_ordered same h before
    have hSame : (s.after before).SameParameters (s'.after before) := by
      have hFirst := s.after_same before
      have hSecond := s'.after_same before
      exact ⟨(hFirst.1.trans same.1).trans hSecond.1.symm,
        (hFirst.2.trans same.2).trans hSecond.2.symm,
        (hFirst.3.trans same.3).trans hSecond.3.symm,
        (hFirst.4.trans same.4).trans hSecond.4.symm⟩
    obtain ⟨hLastOrder, hLastGap⟩ := after_ordered hSame hOrder rest
    refine ⟨s.after before, s'.after before, (s.after before).after rest,
      (s'.after before).after rest, run_eq s before, run_eq s' before, ?_, ?_, hOrder, hLastOrder,
      hGap, hLastGap⟩
    · rw [run_eq, s.after_append]
    · rw [run_eq, s'.after_append]

theorem sampleState_misses : 0 ≤ 0 := le_rfl

def sampleState : ACIState where
  targetMiscoverage := ⟨1 / 10, by norm_num⟩
  currentMiscoverage := ⟨1 / 10, by norm_num⟩
  learningRate := ⟨1 / 20, by norm_num⟩
  minimumMiscoverage := ⟨1 / 100, by norm_num⟩
  maximumMiscoverage := ⟨1 / 5, by norm_num⟩
  updateCount := 0
  missCount := 0
  algorithmVersion := aciPolicyVersion
  target_within := by norm_num
  current_within := by norm_num
  misses_le := sampleState_misses
  supported := rfl

/-- One miss and two covered outcomes, with no projection. -/
theorem miss_budget_sample : ∃ t, [true, false, false].foldlM aciTransition sampleState = .ok t ∧
    (1 : ℚ) = 3 * (1 / 10) + (1 / 10 - t.currentMiscoverage.1) / (1 / 20) := by
  obtain ⟨t, hRun, -, -, -, -, -, -, hExact, -⟩ := (miss_budget sampleState [true, false, false]).2.1
  have hAdded : totalAlong ACIState.addedBelow sampleState [true, false, false] = 0 := by
    simp [totalAlong_addedBelow, ProjectedWalk.totalAdded, ProjectedWalk.added, ProjectedWalk.step,
      ProjectedWalk.project, sampleState, ACIState.increment]
    norm_num
  have hRemoved : totalAlong ACIState.removedAbove sampleState [true, false, false] = 0 := by
    simp [totalAlong_removedAbove, ProjectedWalk.totalRemoved, ProjectedWalk.removed,
      ProjectedWalk.step, ProjectedWalk.project, sampleState, ACIState.increment]
    norm_num
  refine ⟨t, hRun, ?_⟩
  have := hExact hAdded hRemoved
  norm_num [sampleState] at this
  linarith

end StockApi.Calibration

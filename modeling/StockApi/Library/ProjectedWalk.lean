import Mathlib.Algebra.Order.Group.Defs
import Mathlib.Algebra.Order.Group.MinMax
import Mathlib.Algebra.BigOperators.Group.List.Basic
import Mathlib.Tactic.Abel

/-!
# Walks projected to an interval

A walk adds an increment and projects to `[lo, hi]` at each step. What the projections have added
and removed is accounted for, and two walks under the same increments keep their order and never
move apart.
-/

namespace StockApi.ProjectedWalk

universe u

variable {α : Type u} [AddCommGroup α] [LinearOrder α] [IsOrderedAddMonoid α]

def project (lo hi x : α) : α := min hi (max lo x)

/-- What the lower end adds. -/
def added (lo x : α) : α := max 0 (lo - x)

/-- What the upper end removes. -/
def removed (lo hi x : α) : α := max 0 (max lo x - hi)

omit [IsOrderedAddMonoid α] [AddCommGroup α] in
theorem project_mem {lo hi : α} (h : lo ≤ hi) (x : α) : lo ≤ project lo hi x ∧ project lo hi x ≤ hi :=
  ⟨le_min h (le_max_left lo x), min_le_left hi _⟩

theorem project_eq (lo hi x : α) : project lo hi x = x + added lo x - removed lo hi x := by
  have hLower : max lo x = x + added lo x := by
    rw [added, ← max_add_add_left, add_zero, add_sub_cancel, max_comm]
  have hUpper : min hi (max lo x) = max lo x - removed lo hi x := by
    rw [removed, ← min_sub_sub_left, sub_zero, sub_sub_cancel, min_comm]
  rw [project, hUpper, hLower]

omit [IsOrderedAddMonoid α] in
theorem added_nonneg (lo x : α) : 0 ≤ added lo x := le_max_left 0 _

omit [IsOrderedAddMonoid α] in
theorem removed_nonneg (lo hi x : α) : 0 ≤ removed lo hi x := le_max_left 0 _

omit [IsOrderedAddMonoid α] [AddCommGroup α] in
theorem project_mono (lo hi : α) {x y : α} (h : x ≤ y) : project lo hi x ≤ project lo hi y :=
  min_le_min_left hi (max_le_max_left lo h)

/-- The projection does not move two points apart. -/
theorem project_gap (lo hi : α) {x y : α} (h : x ≤ y) :
    project lo hi y - project lo hi x ≤ y - x := by
  have hLower : max lo y - max lo x ≤ y - x := by
    rw [sub_le_iff_le_add]
    apply max_le
    · exact (le_max_left lo x).trans (le_add_of_nonneg_left (sub_nonneg.mpr h))
    · calc
        y = y - x + x := (sub_add_cancel y x).symm
        _ ≤ y - x + max lo x := add_le_add_right (le_max_right lo x) _
  have hOrder : max lo x ≤ max lo y := max_le_max_left lo h
  refine le_trans ?_ hLower
  rw [sub_le_iff_le_add, project, project, ← min_add_add_left]
  apply le_min
  · exact (min_le_left hi _).trans (le_add_of_nonneg_left (sub_nonneg.mpr hOrder))
  · rw [sub_add_cancel]
    exact min_le_right hi _

/-! ## Walks -/

def step (lo hi x d : α) : α := project lo hi (x + d)

def walk (lo hi : α) : α → List α → α := List.foldl (step lo hi)

/-- What the lower end adds along a walk. -/
def totalAdded (lo hi : α) : α → List α → α
  | _, [] => 0
  | x, d :: rest => added lo (x + d) + totalAdded lo hi (step lo hi x d) rest

/-- What the upper end removes along a walk. -/
def totalRemoved (lo hi : α) : α → List α → α
  | _, [] => 0
  | x, d :: rest => removed lo hi (x + d) + totalRemoved lo hi (step lo hi x d) rest

theorem totals_nonneg (lo hi x : α) (ds : List α) :
    0 ≤ totalAdded lo hi x ds ∧ 0 ≤ totalRemoved lo hi x ds := by
  induction ds generalizing x with
  | nil => exact ⟨le_rfl, le_rfl⟩
  | cons d rest ih =>
    obtain ⟨hAdded, hRemoved⟩ := ih (step lo hi x d)
    exact ⟨add_nonneg (added_nonneg lo _) hAdded, add_nonneg (removed_nonneg lo hi _) hRemoved⟩

/-- A walk ends where its increments lead, but for what the projections added and removed. -/
theorem walk_eq (lo hi x : α) (ds : List α) :
    walk lo hi x ds = x + ds.sum + totalAdded lo hi x ds - totalRemoved lo hi x ds := by
  induction ds generalizing x with
  | nil => simp [walk, totalAdded, totalRemoved]
  | cons d rest ih =>
    have hStep : walk lo hi x (d :: rest) = walk lo hi (step lo hi x d) rest := rfl
    rw [hStep, ih, totalAdded, totalRemoved, List.sum_cons]
    conv_lhs => enter [1, 1, 1]; rw [step, project_eq]
    abel

omit [IsOrderedAddMonoid α] in
theorem walk_append (lo hi x : α) (ds more : List α) :
    walk lo hi x (ds ++ more) = walk lo hi (walk lo hi x ds) more :=
  List.foldl_append

theorem walk_ordered (lo hi : α) {x y : α} (h : x ≤ y) (ds : List α) :
    walk lo hi x ds ≤ walk lo hi y ds ∧ walk lo hi y ds - walk lo hi x ds ≤ y - x := by
  induction ds generalizing x y with
  | nil => exact ⟨h, le_rfl⟩
  | cons d rest ih =>
    have hShifted : x + d ≤ y + d := add_le_add_left h d
    obtain ⟨hOrder, hGap⟩ := ih (project_mono lo hi hShifted)
    refine ⟨hOrder, hGap.trans ((project_gap lo hi hShifted).trans_eq ?_)⟩
    abel

end StockApi.ProjectedWalk

import Mathlib.Algebra.Order.Group.Defs
import Mathlib.Algebra.Order.BigOperators.Group.List
import Mathlib.Algebra.Ring.Int.Defs
import Mathlib.Data.List.MinMax

/-!
# Fixed-window admissions

A history of admitted costs, each with its time and the start of the window it fell into. When
windows start at least a window's length apart and no window admits more than its capacity, an
interval of that length meets two windows at most.
-/

namespace StockApi.FixedWindow

universe u

structure Entry (T : Type u) where
  time : T
  start : T
  cost : Int

variable {T : Type u}

def total (entries : List (Entry T)) : Int := (entries.map Entry.cost).sum

@[simp] theorem total_nil : total ([] : List (Entry T)) = 0 := rfl

@[simp] theorem total_cons (e : Entry T) (entries : List (Entry T)) :
    total (e :: entries) = e.cost + total entries := by
  simp [total]

theorem total_nonneg {entries : List (Entry T)} (h : ∀ e ∈ entries, 0 ≤ e.cost) :
    0 ≤ total entries := by
  apply List.sum_nonneg
  intro c hc
  obtain ⟨e, he, rfl⟩ := List.mem_map.mp hc
  exact h e he

section Order

variable [LinearOrder T]

def ofWindow (w : T) (entries : List (Entry T)) : List (Entry T) := entries.filter (·.start = w)

def between (a b : T) (entries : List (Entry T)) : List (Entry T) :=
  entries.filter fun e => a ≤ e.time ∧ e.time ≤ b

theorem exists_first {entries : List (Entry T)} (h : entries ≠ []) :
    ∃ first ∈ entries, ∀ e ∈ entries, first.start ≤ e.start := by
  cases hFirst : entries.argmin Entry.start with
  | none => exact absurd (List.argmin_eq_none.mp hFirst) h
  | some first => exact ⟨first, List.argmin_mem hFirst, fun e he => List.le_of_mem_argmin he hFirst⟩

theorem exists_last {entries : List (Entry T)} (h : entries ≠ []) :
    ∃ last ∈ entries, ∀ e ∈ entries, e.start ≤ last.start := by
  cases hLast : entries.argmax Entry.start with
  | none => exact absurd (List.argmax_eq_none.mp hLast) h
  | some last => exact ⟨last, List.argmax_mem hLast, fun e he => List.le_of_mem_argmax he hLast⟩

theorem total_ofWindow_cons (w : T) (e : Entry T) (entries : List (Entry T)) :
    total (ofWindow w (e :: entries)) =
      (if e.start = w then e.cost else 0) + total (ofWindow w entries) := by
  unfold ofWindow
  rw [List.filter_cons]
  split_ifs with hBool hSame hSame
  · rw [total_cons]
  · exact absurd (of_decide_eq_true hBool) hSame
  · exact absurd (decide_eq_true hSame) hBool
  · rw [Int.zero_add]

/-- Entries of two windows cost no more than the two windows do. -/
theorem total_le_of_two {entries some : List (Entry T)} {v w : T} (sub : some.Sublist entries)
    (nonneg : ∀ e ∈ entries, 0 ≤ e.cost) (two : ∀ e ∈ some, e.start = v ∨ e.start = w) :
    total some ≤ total (ofWindow v entries) + total (ofWindow w entries) := by
  induction sub with
  | slnil => simp [ofWindow]
  | cons e hRest ih =>
    have hTail := ih (fun x hx => nonneg x (List.mem_cons_of_mem _ hx)) two
    have hCost := nonneg e List.mem_cons_self
    rw [total_ofWindow_cons, total_ofWindow_cons]
    split_ifs <;> omega
  | cons_cons e hRest ih =>
    have hTail := ih (fun x hx => nonneg x (List.mem_cons_of_mem _ hx))
      fun x hx => two x (List.mem_cons_of_mem _ hx)
    have hCost := nonneg e List.mem_cons_self
    have hTwo := two e List.mem_cons_self
    rw [total_ofWindow_cons, total_ofWindow_cons, total_cons]
    split_ifs with hFirst hSecond hSecond
    · omega
    · omega
    · omega
    · rcases hTwo with hFirst' | hSecond'
      · exact absurd hFirst' hFirst
      · exact absurd hSecond' hSecond

end Order

section Paced

variable [AddCommGroup T] [LinearOrder T]

/-- A history of windows of one length and capacity. -/
structure Paced (length : T) (capacity : Int) (entries : List (Entry T)) : Prop where
  nonneg : ∀ e ∈ entries, 0 ≤ e.cost
  within : ∀ e ∈ entries, e.start ≤ e.time ∧ e.time < e.start + length
  spaced : ∀ a ∈ entries, ∀ b ∈ entries,
    a.start = b.start ∨ a.start + length ≤ b.start ∨ b.start + length ≤ a.start
  bounded : ∀ w, total (ofWindow w entries) ≤ capacity

variable {length : T} {capacity : Int} {entries : List (Entry T)}

theorem Paced.nil (h : 0 ≤ capacity) : Paced length capacity ([] : List (Entry T)) where
  nonneg := fun _ he => absurd he List.not_mem_nil
  within := fun _ he => absurd he List.not_mem_nil
  spaced := fun _ ha => absurd ha List.not_mem_nil
  bounded := fun _ => h

/-- One more entry, in a window that no earlier one comes after. -/
theorem Paced.cons (paced : Paced length capacity entries) {e : Entry T} (hCost : 0 ≤ e.cost)
    (hWithin : e.start ≤ e.time ∧ e.time < e.start + length)
    (hLatest : ∀ x ∈ entries, x.start = e.start ∨ x.start + length ≤ e.start)
    (hRoom : total (ofWindow e.start entries) + e.cost ≤ capacity) :
    Paced length capacity (e :: entries) where
  nonneg := List.forall_mem_cons.mpr ⟨hCost, paced.nonneg⟩
  within := List.forall_mem_cons.mpr ⟨hWithin, paced.within⟩
  spaced := by
    intro a ha b hb
    rcases List.mem_cons.mp ha with rfl | ha
    · rcases List.mem_cons.mp hb with rfl | hb
      · exact .inl rfl
      · rcases hLatest b hb with hSame | hBefore
        · exact .inl hSame.symm
        · exact .inr (.inr hBefore)
    · rcases List.mem_cons.mp hb with rfl | hb
      · rcases hLatest a (by assumption) with hSame | hBefore
        · exact .inl hSame
        · exact .inr (.inl hBefore)
      · exact paced.spaced a ha b hb
  bounded := by
    intro w
    rw [total_ofWindow_cons]
    split_ifs with hSame
    · subst hSame
      omega
    · rw [Int.zero_add]
      exact paced.bounded w

variable [IsOrderedAddMonoid T]

/-- An interval of a window's length meets two windows at most. -/
theorem Paced.total_between_le (paced : Paced length capacity entries) (a : T) :
    total (between a (a + length) entries) ≤ 2 * capacity := by
  have hCapacity : 0 ≤ capacity :=
    (total_nonneg fun e he => paced.nonneg e (List.mem_filter.mp he).1).trans (paced.bounded a)
  rcases eq_or_ne (between a (a + length) entries) [] with hNone | hSome
  · rw [hNone, total_nil]
    omega
  · obtain ⟨first, hFirst, hLeast⟩ := exists_first hSome
    obtain ⟨last, hLast, hMost⟩ := exists_last hSome
    have hEntry : ∀ e ∈ between a (a + length) entries,
        e ∈ entries ∧ a ≤ e.time ∧ e.time ≤ a + length := by
      intro e he
      obtain ⟨hMem, hTime⟩ := List.mem_filter.mp he
      exact ⟨hMem, of_decide_eq_true hTime⟩
    obtain ⟨hFirstMem, hFrom, _⟩ := hEntry first hFirst
    obtain ⟨hLastMem, _, hTo⟩ := hEntry last hLast
    have hTwo : ∀ e ∈ between a (a + length) entries,
        e.start = first.start ∨ e.start = last.start := by
      intro e he
      by_contra hThird
      rw [not_or] at hThird
      obtain ⟨hMem, _, _⟩ := hEntry e he
      have hPos : 0 < length := by
        have h := paced.within e hMem
        exact pos_of_lt_add_right (h.1.trans_lt h.2)
      -- a window strictly between the two would push them more than its length apart
      have hAfter : first.start + length ≤ e.start := by
        rcases paced.spaced first hFirstMem e hMem with hSame | hLe | hLe
        · exact absurd hSame.symm hThird.1
        · exact hLe
        · exact absurd ((lt_add_of_pos_right _ hPos).trans_le hLe) (not_lt.mpr (hLeast e he))
      have hBefore : e.start + length ≤ last.start := by
        rcases paced.spaced e hMem last hLastMem with hSame | hLe | hLe
        · exact absurd hSame hThird.2
        · exact hLe
        · exact absurd ((lt_add_of_pos_right _ hPos).trans_le hLe) (not_lt.mpr (hMost e he))
      have hLow : a < e.start := hFrom.trans_lt ((paced.within first hFirstMem).2.trans_le hAfter)
      have hHigh : e.start + length ≤ a + length :=
        (hBefore.trans (paced.within last hLastMem).1).trans hTo
      exact absurd hLow (not_lt.mpr (le_of_add_le_add_right hHigh))
    have hBoth := total_le_of_two (List.filter_sublist) paced.nonneg hTwo
    have hOne := paced.bounded first.start
    have hOther := paced.bounded last.start
    unfold between at hBoth ⊢
    omega

end Paced

end StockApi.FixedWindow

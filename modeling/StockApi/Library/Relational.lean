import Mathlib.Data.List.Dedup
import Mathlib.Data.List.MinMax
import Mathlib.Data.List.Sort

/-!
# Selecting rows

A table is a list of rows. `latestBy` is `ORDER BY key DESC LIMIT 1`; where the key is unique
among the rows the answer does not depend on how the rows are listed. The window functions keep
the rows that a later `WHERE rank = 1` selects.
-/

namespace StockApi.Relational

universe u v

/-- What a statement raises. -/
structure SqlError where
  sqlstate : String
  message : String
deriving DecidableEq

def checkViolation : SqlError := ⟨"23514", "new row violates check constraint"⟩

def uniqueViolation : SqlError := ⟨"23505", "duplicate key value violates unique constraint"⟩

variable {α : Type u} {κ : Type v} [LinearOrder κ] {key : α → κ} {rows : List α} {row : α}

/-- `ORDER BY key DESC LIMIT 1`. -/
def latestBy (key : α → κ) (rows : List α) : Option α := rows.argmax key

@[simp] theorem latestBy_nil : latestBy key [] = none := rfl

theorem latestBy_eq_none_iff : latestBy key rows = none ↔ rows = [] := List.argmax_eq_none

theorem mem_of_latestBy (h : latestBy key rows = some row) : row ∈ rows := List.argmax_mem h

theorem le_of_latestBy (h : latestBy key rows = some row) {other : α} (hMem : other ∈ rows) :
    key other ≤ key row := List.le_of_mem_argmax hMem h

theorem exists_latestBy (h : rows ≠ []) : ∃ row, latestBy key rows = some row :=
  Option.ne_none_iff_exists'.mp (mt latestBy_eq_none_iff.mp h)

/-- A row later than all the others is the latest one. -/
theorem latestBy_append_of_lt (h : ∀ other ∈ rows, key other < key row) :
    latestBy key (rows ++ [row]) = some row := by
  rw [latestBy, List.argmax_concat]
  cases hLatest : rows.argmax key with
  | none => rfl
  | some prior => exact if_pos (h prior (List.argmax_mem hLatest))

/-- Where the key is unique, the latest row is the one no other exceeds. -/
theorem latestBy_eq_some_iff (unique : ∀ a ∈ rows, ∀ b ∈ rows, key a = key b → a = b) :
    latestBy key rows = some row ↔ row ∈ rows ∧ ∀ other ∈ rows, key other ≤ key row := by
  constructor
  · intro h
    exact ⟨mem_of_latestBy h, fun _ hMem => le_of_latestBy h hMem⟩
  · rintro ⟨hMem, hLast⟩
    obtain ⟨found, hFound⟩ : ∃ found, latestBy key rows = some found :=
      exists_latestBy (List.ne_nil_of_mem hMem)
    have hSame : key found = key row :=
      le_antisymm (hLast found (mem_of_latestBy hFound)) (le_of_latestBy hFound hMem)
    rw [hFound, unique found (mem_of_latestBy hFound) row hMem hSame]

/-! ## Lists given by their members -/

theorem eq_toList_of_mem_iff {found : Option α} (nodup : rows.Nodup)
    (h : ∀ r, r ∈ rows ↔ found = some r) : rows = found.toList := by
  cases found with
  | none =>
    rw [Option.toList_none, List.eq_nil_iff_forall_not_mem]
    exact fun r hMem => by simpa using (h r).mp hMem
  | some a =>
    have hAll : ∀ r ∈ rows, r = a := fun r hMem => by simpa using ((h r).mp hMem).symm
    have hMem : a ∈ rows := (h a).mpr rfl
    match rows, nodup, hAll, hMem with
    | [b], _, hAll, _ => rw [hAll b (by simp), Option.toList_some]
    | b :: c :: rest, nodup, hAll, _ =>
      have hSame : b = c := (hAll b (by simp)).trans (hAll c (by simp)).symm
      simp [hSame] at nodup

/-! ## Window functions -/

section Windows

variable {π : Type*} [DecidableEq π] [DecidableEq α]

/-- `row_number() OVER (PARTITION BY part ORDER BY key DESC) = 1`; the first row listed wins a
tie. -/
def rowNumberOne (part : α → π) (key : α → κ) (rows : List α) : List α :=
  rows.filter fun row =>
    decide (latestBy key (rows.filter fun other => decide (part other = part row)) = some row)

/-- `rank() OVER (ORDER BY key DESC) = 1`. -/
def rankOne (key : α → κ) (rows : List α) : List α :=
  rows.filter fun row => decide (∀ other ∈ rows, key other ≤ key row)

theorem mem_rowNumberOne_iff {part : α → π} :
    row ∈ rowNumberOne part key rows ↔
      latestBy key (rows.filter fun other => decide (part other = part row)) = some row := by
  rw [rowNumberOne, List.mem_filter, decide_eq_true_eq]
  constructor
  · exact fun h => h.2
  · exact fun h => ⟨(List.mem_filter.mp (mem_of_latestBy h)).1, h⟩

theorem rowNumberOne_nodup {part : α → π} (nodup : rows.Nodup) :
    (rowNumberOne part key rows).Nodup := nodup.filter _

/-- One partition keeps at most one row. -/
theorem eq_of_mem_rowNumberOne {part : α → π} {a b : α} (ha : a ∈ rowNumberOne part key rows)
    (hb : b ∈ rowNumberOne part key rows) (h : part a = part b) : a = b := by
  rw [mem_rowNumberOne_iff] at ha hb
  rw [h, hb] at ha
  exact (Option.some.inj ha).symm

omit [DecidableEq α] in
theorem mem_rankOne_iff : row ∈ rankOne key rows ↔ row ∈ rows ∧ ∀ other ∈ rows, key other ≤ key row := by
  rw [rankOne, List.mem_filter, decide_eq_true_eq]

omit [DecidableEq α] in
/-- Without ties, the rows of rank one are the latest row. -/
theorem rankOne_eq_toList (nodup : rows.Nodup)
    (unique : ∀ a ∈ rows, ∀ b ∈ rows, key a = key b → a = b) :
    rankOne key rows = (latestBy key rows).toList :=
  eq_toList_of_mem_iff (nodup.filter _) fun _ =>
    mem_rankOne_iff.trans (latestBy_eq_some_iff unique).symm

end Windows

/-! ## Ordering and limits -/

/-- `ORDER BY key DESC`. -/
def orderDesc (key : α → κ) (rows : List α) : List α :=
  rows.mergeSort fun a b => decide (key b ≤ key a)

theorem orderDesc_perm : (orderDesc key rows).Perm rows := List.mergeSort_perm _ _

theorem orderDesc_sorted : (orderDesc key rows).Pairwise fun a b => key b ≤ key a := by
  have h : (orderDesc key rows).Pairwise fun a b => decide (key b ≤ key a) = true := by
    apply List.pairwise_mergeSort
    · intro a b c hab hbc
      rw [decide_eq_true_eq] at hab hbc ⊢
      exact hbc.trans hab
    · intro a b
      simpa using le_total (key b) (key a)
  exact h.imp of_decide_eq_true

/-- In a list ordered without ties a row survives a limit exactly when fewer rows are greater. -/
theorem mem_take_iff_of_sorted {limit : Nat} (sorted : rows.Pairwise fun a b => key b < key a) :
    row ∈ rows.take limit ↔ row ∈ rows ∧ rows.countP (fun other => decide (key row < key other)) < limit := by
  induction rows generalizing limit with
  | nil => simp
  | cons first rest ih =>
    obtain ⟨hFirst, hRest⟩ := List.pairwise_cons.mp sorted
    cases limit with
    | zero => simp
    | succ n =>
      have hNone : rest.countP (fun other => decide (key first < key other)) = 0 := by
        rw [List.countP_eq_zero]
        intro other hMem
        simpa using (hFirst other hMem).le
      rw [List.take_succ_cons, List.mem_cons, List.mem_cons, ih hRest, List.countP_cons]
      constructor
      · rintro (rfl | ⟨hMem, hCount⟩)
        · exact ⟨Or.inl rfl, by simp [hNone]⟩
        · exact ⟨Or.inr hMem, by simp [hFirst row hMem]; omega⟩
      · rintro ⟨rfl | hMem, hCount⟩
        · exact Or.inl rfl
        · rw [if_pos (by simpa using hFirst row hMem)] at hCount
          exact Or.inr ⟨hMem, by omega⟩

theorem orderDesc_strict (nodup : rows.Nodup)
    (unique : ∀ a ∈ rows, ∀ b ∈ rows, key a = key b → a = b) :
    (orderDesc key rows).Pairwise fun a b => key b < key a := by
  have hNodup : (orderDesc key rows).Nodup := orderDesc_perm.nodup_iff.mpr nodup
  refine (orderDesc_sorted.and hNodup).imp_of_mem ?_
  rintro a b ha hb ⟨hLe, hNe⟩
  refine lt_of_le_of_ne hLe fun hEq => hNe ?_
  exact unique a (orderDesc_perm.mem_iff.mp ha) b (orderDesc_perm.mem_iff.mp hb) hEq.symm

/-- `ORDER BY key DESC LIMIT limit` over rows without ties. -/
theorem mem_take_orderDesc_iff {limit : Nat} (nodup : rows.Nodup)
    (unique : ∀ a ∈ rows, ∀ b ∈ rows, key a = key b → a = b) :
    row ∈ (orderDesc key rows).take limit ↔
      row ∈ rows ∧ rows.countP (fun other => decide (key row < key other)) < limit := by
  rw [mem_take_iff_of_sorted (orderDesc_strict nodup unique), orderDesc_perm.mem_iff,
    orderDesc_perm.countP_eq]

theorem orderDesc_eq_of_perm {others : List α} (perm : rows.Perm others) (nodup : rows.Nodup)
    (unique : ∀ a ∈ rows, ∀ b ∈ rows, key a = key b → a = b) : orderDesc key rows = orderDesc key others := by
  refine List.Perm.eq_of_pairwise ?_ (orderDesc_strict nodup unique) ?_
    (orderDesc_perm.trans (perm.trans orderDesc_perm.symm))
  · exact fun a b _ _ hab hba => absurd (hab.trans hba) (lt_irrefl _)
  · exact orderDesc_strict (perm.nodup_iff.mp nodup)
      fun a ha b hb => unique a (perm.mem_iff.mpr ha) b (perm.mem_iff.mpr hb)

/-- `sorted(rows, key=key)`. -/
def orderAsc (key : α → κ) (rows : List α) : List α :=
  rows.mergeSort fun a b => decide (key a ≤ key b)

theorem orderAsc_perm : (orderAsc key rows).Perm rows := List.mergeSort_perm _ _

theorem orderAsc_sorted : (orderAsc key rows).Pairwise fun a b => key a ≤ key b := by
  have h : (orderAsc key rows).Pairwise fun a b => decide (key a ≤ key b) = true := by
    apply List.pairwise_mergeSort
    · intro a b c hab hbc
      rw [decide_eq_true_eq] at hab hbc ⊢
      exact hab.trans hbc
    · intro a b
      simpa using le_total (key a) (key b)
  exact h.imp of_decide_eq_true

theorem orderAsc_strict (nodup : (rows.map key).Nodup) :
    (orderAsc key rows).Pairwise fun a b => key a < key b := by
  have hNodup : ((orderAsc key rows).map key).Nodup := (orderAsc_perm.map key).nodup_iff.mpr nodup
  refine (orderAsc_sorted.and (List.pairwise_map.mp hNodup)).imp ?_
  rintro a b ⟨hLe, hNe⟩
  exact lt_of_le_of_ne hLe hNe

/-- Two lists ordered without ties that hold the same rows are equal. -/
theorem eq_of_mem_iff_of_strict (key : α → κ) {others : List α} (sorted : rows.Pairwise fun a b => key a < key b)
    (sorted' : others.Pairwise fun a b => key a < key b) (same : ∀ a, a ∈ rows ↔ a ∈ others) : rows = others := by
  have hNodup : ∀ {l : List α}, (l.Pairwise fun a b => key a < key b) → l.Nodup :=
    fun h => h.imp fun hlt hEq => hlt.ne (congrArg key hEq)
  refine List.Perm.eq_of_pairwise ?_ sorted sorted'
    ((List.perm_ext_iff_of_nodup (hNodup sorted) (hNodup sorted')).mpr same)
  exact fun a b _ _ hab hba => absurd (hab.trans hba) (lt_irrefl _)

theorem orderAsc_eq_of_perm {others : List α} (perm : rows.Perm others) (nodup : (rows.map key).Nodup) :
    orderAsc key rows = orderAsc key others :=
  eq_of_mem_iff_of_strict key (orderAsc_strict nodup) (orderAsc_strict ((perm.map key).nodup_iff.mp nodup)) fun _ => by
    rw [orderAsc_perm.mem_iff, orderAsc_perm.mem_iff, perm.mem_iff]

theorem orderAsc_eq_self (sorted : rows.Pairwise fun a b => key a < key b) :
    orderAsc key rows = rows :=
  List.mergeSort_of_pairwise (sorted.imp fun h => decide_eq_true h.le)

end StockApi.Relational

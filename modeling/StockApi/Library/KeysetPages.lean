import StockApi.Library.Checked
import StockApi.Library.Relational
import Mathlib.Data.List.Basic
import Mathlib.Order.Basic

/-!
# Keyset paging

A page is the newest rows before an exclusive bound, read with one row more than the limit; its oldest row
is the bound of the next page. Following the bounds cuts the rows into pages and leaves nothing out.
-/

namespace StockApi.KeysetPages

universe u v w

variable {α : Type u} {κ : Type v}

/-! ## The bound of the next page -/

section Bound

variable [LinearOrder κ] {key : α → κ} {limit : Nat} {rows : List α}

omit [LinearOrder κ] in
theorem take_probe (rows : List α) : (rows.take (limit + 1)).take limit = rows.take limit := by
  rw [List.take_take, Nat.min_eq_left (Nat.le_succ limit)]

omit [LinearOrder κ] in
/-- The probe exceeds the limit when the rows do. -/
theorem lt_probe_iff : limit < (rows.take (limit + 1)).length ↔ limit < rows.length := by
  rw [List.length_take]
  omega

/-- The rows before the last retained one are those that were not retained. -/
theorem filter_before_last (descending : rows.Pairwise fun a b => key b < key a) {last : α}
    (h : (rows.take limit).getLast? = some last) :
    rows.filter (fun a => key a < key last) = rows.drop limit := by
  have hSplit := List.take_append_drop limit rows
  rw [← hSplit, List.pairwise_append] at descending
  obtain ⟨hTake, -, hAcross⟩ := descending
  have hMem : last ∈ rows.take limit := List.mem_of_getLast? h
  have hKept : ∀ a ∈ rows.take limit, ¬ decide (key a < key last) = true := by
    intro a ha
    obtain ⟨front, hFront⟩ := List.getLast?_eq_some_iff.mp h
    rw [hFront, List.pairwise_append] at hTake
    rw [hFront, List.mem_append, List.mem_singleton] at ha
    rw [decide_eq_true_eq, not_lt]
    rcases ha with hOld | rfl
    · exact (hTake.2.2 a hOld last (List.mem_singleton_self last)).le
    · exact le_rfl
  have hRest : ∀ a ∈ rows.drop limit, decide (key a < key last) = true :=
    fun a ha => decide_eq_true (hAcross last hMem a ha)
  rw [← hSplit, List.filter_append, List.filter_eq_nil_iff.mpr hKept, List.filter_eq_self.mpr hRest, hSplit,
    List.nil_append]

/-- Filtered rows are ordered as they were. -/
theorem orderDesc_filter (keep : α → Bool) (nodup : rows.Nodup)
    (unique : ∀ a ∈ rows, ∀ b ∈ rows, key a = key b → a = b) :
    Relational.orderDesc key (rows.filter keep) = (Relational.orderDesc key rows).filter keep := by
  have hLess := Relational.orderDesc_strict nodup unique
  have hFiltered : (Relational.orderDesc key (rows.filter keep)).Pairwise fun a b => key b < key a := by
    apply Relational.orderDesc_strict (nodup.filter keep)
    intro a ha b hb hKey
    exact unique a (List.mem_of_mem_filter ha) b (List.mem_of_mem_filter hb) hKey
  have hPerm : (Relational.orderDesc key (rows.filter keep)).Perm ((Relational.orderDesc key rows).filter keep) :=
    Relational.orderDesc_perm.trans (Relational.orderDesc_perm.symm.filter keep)
  exact hPerm.eq_of_pairwise (fun _ _ _ _ hAbove hBelow => absurd hAbove (lt_asymm hBelow)) hFiltered
    (hLess.filter keep)

/-- Newest first, read backwards, is oldest first. -/
theorem reverse_orderDesc (nodup : (rows.map key).Nodup) :
    (Relational.orderDesc key rows).reverse = Relational.orderAsc key rows := by
  have hUnique : ∀ a ∈ rows, ∀ b ∈ rows, key a = key b → a = b := fun a ha b hb hKey =>
    List.inj_on_of_nodup_map nodup ha hb hKey
  have hDescending := Relational.orderDesc_strict (List.Nodup.of_map key nodup) hUnique
  have hPerm : (Relational.orderDesc key rows).reverse.Perm (Relational.orderAsc key rows) :=
    (List.reverse_perm _).trans (Relational.orderDesc_perm.trans Relational.orderAsc_perm.symm)
  exact hPerm.eq_of_pairwise (fun _ _ _ _ hAbove hBelow => absurd hAbove (lt_asymm hBelow))
    (List.pairwise_reverse.mpr hDescending) (Relational.orderAsc_strict nodup)

theorem exists_last (positive : 1 ≤ limit) (more : limit < rows.length) :
    ∃ last, (rows.take limit).getLast? = some last := by
  have hSome : rows.take limit ≠ [] := by
    apply List.ne_nil_of_length_pos
    rw [List.length_take]
    omega
  exact ⟨_, List.getLast?_eq_some_getLast hSome⟩

/-- When rows remain, the bound of the next page has a row before it. -/
theorem exists_older (descending : rows.Pairwise fun a b => key b < key a) (positive : 1 ≤ limit)
    (more : limit < rows.length) :
    ∃ last older, (rows.take limit).getLast? = some last ∧ older ∈ rows ∧ key older < key last := by
  obtain ⟨last, hLast⟩ := exists_last positive more
  have hRest : rows.drop limit ≠ [] := by
    apply List.ne_nil_of_length_pos
    rw [List.length_drop]
    omega
  obtain ⟨older, hOlder⟩ := List.exists_mem_of_ne_nil _ hRest
  rw [← filter_before_last descending hLast, List.mem_filter, decide_eq_true_eq] at hOlder
  exact ⟨last, older, hLast, hOlder⟩

end Bound

/-! ## Following the bounds -/

section Following

variable {ε : Type u} {σ ρ : Type v} (read : σ → Except ε ρ) (next : σ → ρ → Option (Except ε σ))

/-- The answers read one after another until one names no further query. -/
inductive Follows : σ → List ρ → Prop
  | last {s : σ} {r : ρ} : read s = .ok r → next s r = none → Follows s [r]
  | more {s s' : σ} {r : ρ} {rest : List ρ} : read s = .ok r → next s r = some (.ok s') → Follows s' rest →
      Follows s (r :: rest)

variable {read next}

theorem Follows.unique {s : σ} {pages others : List ρ} (h : Follows read next s pages)
    (h' : Follows read next s others) : pages = others := by
  induction h generalizing others with
  | last hRead hNext =>
    cases h' with
    | last hRead' _ =>
      rw [hRead, Except.ok.injEq] at hRead'
      rw [hRead']
    | more hRead' hNext' _ =>
      rw [hRead, Except.ok.injEq] at hRead'
      rw [← hRead', hNext] at hNext'
      cases hNext'
  | more hRead hNext _ ih =>
    cases h' with
    | last hRead' hNext' =>
      rw [hRead, Except.ok.injEq] at hRead'
      rw [← hRead', hNext] at hNext'
      cases hNext'
    | more hRead' hNext' hRest =>
      rw [hRead, Except.ok.injEq] at hRead'
      subst hRead'
      rw [hNext] at hNext'
      cases hNext'
      rw [ih hRest]

/-- What holds of the answer to every query that can be reached holds of every page. -/
theorem Follows.forall_pages {reachable : σ → Prop} {P : ρ → Prop}
    (answer : ∀ s r, reachable s → read s = .ok r → P r)
    (step : ∀ s r s', reachable s → next s r = some (.ok s') → reachable s') {s : σ} {pages : List ρ}
    (h : Follows read next s pages) (start : reachable s) : ∀ r ∈ pages, P r := by
  induction h with
  | last hRead _ => exact List.forall_mem_singleton.mpr (answer _ _ start hRead)
  | more hRead hNext _ ih => exact List.forall_mem_cons.mpr ⟨answer _ _ start hRead, ih (step _ _ _ start hNext)⟩

variable (rows : ρ → List α) (hasMore : ρ → Bool) (limit : Nat)

/-- Descending rows cut into pages. -/
inductive Cut : List α → List ρ → Prop
  | last {remaining : List α} {r : ρ} : remaining.length ≤ limit → rows r = remaining.reverse →
      hasMore r = false → Cut remaining [r]
  | more {remaining : List α} {r : ρ} {rest : List ρ} : limit < remaining.length →
      rows r = (remaining.take limit).reverse → hasMore r = true → Cut (remaining.drop limit) rest →
      Cut remaining (r :: rest)

variable {rows hasMore limit}

/-- Every answer takes its page off the remaining rows, so that the last one is reached. -/
theorem exists_follows {reachable : σ → Prop} (remaining : σ → List α) (positive : 1 ≤ limit)
    (step : ∀ s, reachable s → ∃ r, read s = .ok r ∧ rows r = ((remaining s).take limit).reverse ∧
      hasMore r = decide (limit < (remaining s).length) ∧ (hasMore r = false → next s r = none) ∧
      (hasMore r = true → ∃ s', next s r = some (.ok s') ∧ reachable s' ∧
        remaining s' = (remaining s).drop limit))
    {s : σ} (h : reachable s) :
    ∃ pages, Follows read next s pages ∧ Cut rows hasMore limit (remaining s) pages := by
  generalize hSize : (remaining s).length = size
  induction size using Nat.strongRecOn generalizing s with
  | ind size ih =>
    obtain ⟨r, hRead, hRows, hMore, hLast, hNext⟩ := step s h
    by_cases hLong : limit < (remaining s).length
    · rw [decide_eq_true hLong] at hMore
      obtain ⟨s', hStep, hReachable, hRemaining⟩ := hNext hMore
      have hShorter : (remaining s').length < size := by
        rw [hRemaining, List.length_drop]
        omega
      obtain ⟨pages, hFollows, hCut⟩ := ih _ hShorter hReachable rfl
      rw [hRemaining] at hCut
      exact ⟨r :: pages, .more hRead hStep hFollows, .more hLong hRows hMore hCut⟩
    · have hShort : (remaining s).length ≤ limit := Nat.le_of_not_lt hLong
      rw [decide_eq_false hLong] at hMore
      rw [List.take_of_length_le hShort] at hRows
      exact ⟨[r], .last hRead (hLast hMore), .last hShort hRows hMore⟩

/-! ## What the pages hold -/

variable {all : List α} {pages : List ρ}

/-- The pages, the oldest first, are the rows in ascending order. -/
theorem Cut.flatMap_reverse (h : Cut rows hasMore limit all pages) : pages.reverse.flatMap rows = all.reverse := by
  induction h with
  | last _ hRows _ => rw [List.reverse_singleton, List.flatMap_singleton, hRows]
  | more _ hRows _ _ ih =>
    rw [List.reverse_cons, List.flatMap_append, ih, List.flatMap_singleton, hRows, ← List.reverse_append,
      List.take_append_drop]

theorem Cut.ne_nil (h : Cut rows hasMore limit all pages) : pages ≠ [] := by
  cases h with
  | last => exact List.cons_ne_nil _ _
  | more => exact List.cons_ne_nil _ _

theorem Cut.full (h : Cut rows hasMore limit all pages) : ∀ r ∈ pages.dropLast, (rows r).length = limit := by
  induction h with
  | last => exact fun r hr => absurd hr List.not_mem_nil
  | more hLong hRows _ hRest ih =>
    rw [List.dropLast_cons_of_ne_nil hRest.ne_nil, List.forall_mem_cons]
    refine ⟨?_, ih⟩
    rw [hRows, List.length_reverse, List.length_take]
    omega

theorem Cut.rows_ne_nil (h : Cut rows hasMore limit all pages) (positive : 1 ≤ limit) (some_row : all ≠ []) :
    ∀ r ∈ pages, rows r ≠ [] := by
  induction h with
  | last _ hRows _ =>
    rw [List.forall_mem_singleton, hRows, ne_eq, List.reverse_eq_nil_iff]
    exact some_row
  | more hLong hRows _ _ ih =>
    rw [List.forall_mem_cons]
    constructor
    · rw [hRows]
      apply List.ne_nil_of_length_pos
      rw [List.length_reverse, List.length_take]
      omega
    · apply ih
      apply List.ne_nil_of_length_pos
      rw [List.length_drop]
      omega

theorem Cut.rows_subset (h : Cut rows hasMore limit all pages) : ∀ r ∈ pages, ∀ a ∈ rows r, a ∈ all := by
  intro r hr a ha
  have hMem : a ∈ pages.reverse.flatMap rows := List.mem_flatMap.mpr ⟨r, List.mem_reverse.mpr hr, ha⟩
  rwa [h.flatMap_reverse, List.mem_reverse] at hMem

/-- A page says that there is more exactly when an older row remains. -/
theorem Cut.hasMore_iff [LinearOrder κ] {key : α → κ} (h : Cut rows hasMore limit all pages) (positive : 1 ≤ limit)
    (descending : all.Pairwise fun a b => key b < key a) :
    ∀ r ∈ pages, hasMore r = true ↔ ∃ a ∈ all, ∀ b ∈ rows r, key a < key b := by
  induction h with
  | last _ hRows hLast =>
    rw [List.forall_mem_singleton, hLast]
    constructor
    · exact fun hMore => absurd hMore Bool.false_ne_true
    · rintro ⟨a, ha, hOlder⟩
      have hSelf := hOlder a (by rwa [hRows, List.mem_reverse])
      exact absurd hSelf (lt_irrefl _)
  | @more remaining r rest hLong hRows hMore hRest ih =>
    have hSplit := List.take_append_drop limit remaining
    rw [← hSplit, List.pairwise_append] at descending
    obtain ⟨-, hDrop, hAcross⟩ := descending
    have hLater : remaining.drop limit ≠ [] := by
      apply List.ne_nil_of_length_pos
      rw [List.length_drop]
      omega
    rw [List.forall_mem_cons]
    constructor
    · refine iff_of_true hMore ?_
      obtain ⟨a, tail, hHead⟩ := List.exists_cons_of_ne_nil hLater
      have ha : a ∈ remaining.drop limit := by
        rw [hHead]
        exact List.mem_cons_self
      refine ⟨a, List.mem_of_mem_drop ha, fun b hb => hAcross b ?_ a ha⟩
      rwa [hRows, List.mem_reverse] at hb
    · intro page hPage
      rw [ih hDrop page hPage]
      constructor
      · rintro ⟨a, ha, hOlder⟩
        exact ⟨a, List.mem_of_mem_drop ha, hOlder⟩
      · rintro ⟨a, ha, hOlder⟩
        refine ⟨a, ?_, hOlder⟩
        rw [← hSplit, List.mem_append] at ha
        refine ha.resolve_left fun hNewer => ?_
        -- The page has a row, and every row of it is older than the retained ones.
        obtain ⟨b, tail, hHead⟩ := List.exists_cons_of_ne_nil (hRest.rows_ne_nil positive hLater page hPage)
        have hb : b ∈ rows page := by
          rw [hHead]
          exact List.mem_cons_self
        exact absurd (hOlder b hb) (hAcross a hNewer b (hRest.rows_subset page hPage b hb)).asymm

/-- Pages that hold the ascending rows once: all but the last are full, and more is announced exactly when an
older row remains. -/
structure PagedOnce {β : Type u} {τ : Type w} [LinearOrder τ] (rows : ρ → List β) (hasMore : ρ → Bool)
    (time : β → τ) (limit : Nat) (all : List β) (pages : List ρ) : Prop where
  ascending : all.Pairwise fun a b => time a < time b
  complete : pages.reverse.flatMap rows = all
  full : ∀ r ∈ pages.dropLast, (rows r).length = limit
  nonempty : all ≠ [] → ∀ r ∈ pages, rows r ≠ []
  more : ∀ r ∈ pages, hasMore r = true ↔ ∃ a ∈ all, ∀ b ∈ rows r, time a < time b

theorem Cut.pagedOnce [LinearOrder κ] {key : α → κ} (h : Cut rows hasMore limit all pages) (positive : 1 ≤ limit)
    (descending : all.Pairwise fun a b => key b < key a) : PagedOnce rows hasMore key limit all.reverse pages where
  ascending := List.pairwise_reverse.mpr descending
  complete := h.flatMap_reverse
  full := h.full
  nonempty hSome := h.rows_ne_nil positive (mt List.reverse_eq_nil_iff.mpr hSome)
  more r hr := by
    rw [h.hasMore_iff positive descending r hr]
    simp only [List.mem_reverse]

end Following

end StockApi.KeysetPages

import Mathlib.Data.List.Basic
import Mathlib.Data.List.Pairwise
import Mathlib.Logic.Function.Basic

/-!
# Insert-only tables under concurrent transactions

A table keeps every inserted row with the transaction that inserted it. A row counts as long as its
transaction has not aborted; a statement sees the rows of its own transaction and those of the
transactions in its snapshot, all of which have committed. A unique index and an exclusion
constraint look at the rows that count, whether or not the statement sees them.
-/

namespace StockApi.Mvcc

universe u

inductive Fate where
  | fresh
  | active
  | committed
  | aborted
deriving DecidableEq

structure Stored (α : Type u) where
  creator : Nat
  row : α

abbrev Table (α : Type u) := List (Stored α)

/-- The transactions in the snapshot of a statement. -/
abbrev View := Nat → Bool

def View.Of (view : View) (fates : Nat → Fate) : Prop := ∀ x, view x = true → fates x = .committed

variable {α : Type u} {fates fates' : Nat → Fate} {table : Table α} {stored : Stored α} {row : α}

def live (fates : Nat → Fate) (table : Table α) : Table α :=
  table.filter fun s => decide (fates s.creator ≠ .aborted)

def committed (fates : Nat → Fate) (table : Table α) : Table α :=
  table.filter fun s => decide (fates s.creator = .committed)

/-- What a statement of a transaction reads. -/
def visible (own : Nat) (view : View) (table : Table α) : List α :=
  (table.filter fun s => decide (s.creator = own) || view s.creator).map Stored.row

theorem mem_live_iff : stored ∈ live fates table ↔ stored ∈ table ∧ fates stored.creator ≠ .aborted := by
  rw [live, List.mem_filter, decide_eq_true_eq]

theorem mem_committed_iff :
    stored ∈ committed fates table ↔ stored ∈ table ∧ fates stored.creator = .committed := by
  rw [committed, List.mem_filter, decide_eq_true_eq]

theorem live_of_committed (h : stored ∈ committed fates table) : stored ∈ live fates table := by
  rw [mem_committed_iff] at h
  rw [mem_live_iff, h.2]
  exact ⟨h.1, by decide⟩

theorem mem_visible_iff {own : Nat} {view : View} : row ∈ visible own view table ↔
    ∃ s ∈ table, s.row = row ∧ (s.creator = own ∨ view s.creator = true) := by
  simp [visible, and_assoc, and_comm]

theorem live_append (row : Stored α) (h : fates row.creator ≠ .aborted) :
    live fates (table ++ [row]) = live fates table ++ [row] := by
  rw [live, List.filter_append, List.filter_cons_of_pos (by simpa using h), List.filter_nil]
  rfl

/-! ## The fates of transactions -/

/-- A transaction ends once, and only an active one commits. -/
structure Progress (before after : Nat → Fate) : Prop where
  committed : ∀ x, before x = .committed → after x = .committed
  aborted : ∀ x, before x = .aborted → after x = .aborted

theorem Progress.refl (fates : Nat → Fate) : Progress fates fates := ⟨fun _ h => h, fun _ h => h⟩

theorem Progress.trans {fates'' : Nat → Fate} (h : Progress fates fates') (h' : Progress fates' fates'') :
    Progress fates fates'' :=
  ⟨fun x hx => h'.committed x (h.committed x hx), fun x hx => h'.aborted x (h.aborted x hx)⟩

theorem progress_update {x : Nat} {fate : Fate} (h : fates x = .active ∨ fates x = .fresh) :
    Progress fates (Function.update fates x fate) := by
  have hOther : ∀ y, fates y = .committed ∨ fates y = .aborted → y ≠ x := by
    rintro y hy rfl
    rcases h with h | h <;> rw [h] at hy <;> simp at hy
  constructor
  · intro y hy
    rw [Function.update_of_ne (hOther y (Or.inl hy)), hy]
  · intro y hy
    rw [Function.update_of_ne (hOther y (Or.inr hy)), hy]

/-- Rows only ever stop counting. -/
theorem live_sublist (progress : Progress fates fates') (table : Table α) :
    List.Sublist (live fates' table) (live fates table) := by
  apply List.monotone_filter_right
  intro s
  rw [decide_eq_true_eq, decide_eq_true_eq]
  exact fun h hAborted => h (progress.aborted _ hAborted)

/-! ## Rows that a transaction relies on -/

/-- A row of the transaction itself or of one that committed. -/
def Known (fates : Nat → Fate) (own : Nat) (table : Table α) (row : α) : Prop :=
  ∃ s ∈ table, s.row = row ∧ (s.creator = own ∨ fates s.creator = .committed)

theorem known_of_visible {own : Nat} {view : View} (of : view.Of fates)
    (h : row ∈ visible own view table) : Known fates own table row := by
  obtain ⟨s, hMem, hRow, hSeen⟩ := mem_visible_iff.mp h
  exact ⟨s, hMem, hRow, hSeen.imp_right (of s.creator)⟩

theorem Known.mono {own : Nat} {table' : Table α} (h : Known fates own table row)
    (progress : Progress fates fates') (grows : table ⊆ table') : Known fates' own table' row := by
  obtain ⟨s, hMem, hRow, hSeen⟩ := h
  exact ⟨s, grows hMem, hRow, hSeen.imp_right (progress.committed s.creator)⟩

/-- As long as the transaction has not aborted, the row counts. -/
theorem Known.live {own : Nat} (h : Known fates own table row) (notAborted : fates own ≠ .aborted) :
    ∃ s ∈ live fates table, s.row = row := by
  obtain ⟨s, hMem, hRow, hSeen⟩ := h
  refine ⟨s, mem_live_iff.mpr ⟨hMem, ?_⟩, hRow⟩
  rcases hSeen with hOwn | hCommitted
  · rwa [hOwn]
  · rw [hCommitted]
    decide

/-- Once the transaction has committed, so has the row. -/
theorem Known.committed {own : Nat} (h : Known fates own table row)
    (ended : fates own = .committed) : ∃ s ∈ committed fates table, s.row = row := by
  obtain ⟨s, hMem, hRow, hSeen⟩ := h
  refine ⟨s, mem_committed_iff.mpr ⟨hMem, ?_⟩, hRow⟩
  rcases hSeen with hOwn | hCommitted
  · rwa [hOwn]
  · exact hCommitted

/-! ## Constraints -/

/-- No two rows that count are in conflict. -/
def Excludes (conflict : α → α → Prop) (fates : Nat → Fate) (table : Table α) : Prop :=
  (live fates table).Pairwise fun a b => ¬ conflict a.row b.row

/-- The insertion of a row is neither refused nor made to wait. -/
def Free (conflict : α → α → Prop) (fates : Nat → Fate) (table : Table α) (row : α) : Prop :=
  ∀ s ∈ live fates table, ¬ conflict s.row row

variable {conflict : α → α → Prop}

theorem excludes_nil : Excludes conflict fates ([] : Table α) := List.Pairwise.nil

theorem Excludes.insert (h : Excludes conflict fates table) {own : Nat} (free : Free conflict fates table row) :
    Excludes conflict fates (table ++ [⟨own, row⟩]) := by
  rw [Excludes, live, List.filter_append, List.pairwise_append]
  refine ⟨h, ?_, ?_⟩
  · exact (List.pairwise_singleton _ _).sublist List.filter_sublist
  · intro a ha b hb
    have hRow := List.mem_singleton.mp (List.mem_filter.mp hb).1
    rw [hRow]
    exact free a ha

theorem Excludes.progress (h : Excludes conflict fates table) (progress : Progress fates fates') :
    Excludes conflict fates' table :=
  h.sublist (live_sublist progress table)

/-- Rows in conflict are one and the same. -/
theorem Excludes.eq (h : Excludes conflict fates table) (symm : ∀ a b, conflict a b → conflict b a)
    {a b : Stored α} (ha : a ∈ live fates table) (hb : b ∈ live fates table)
    (both : conflict a.row b.row) : a = b := by
  have : Std.Symm fun a b : Stored α => ¬ conflict a.row b.row :=
    ⟨fun _ _ hNot hConflict => hNot (symm _ _ hConflict)⟩
  by_contra hNe
  exact h.forall ha hb hNe both

end StockApi.Mvcc

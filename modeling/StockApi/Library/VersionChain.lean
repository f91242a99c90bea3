import StockApi.Library.Relational
import Mathlib.Data.List.Pairwise

/-!
# Chains of versions

The versions of one thing in the order they were written, each stamped later than the one
before. The chain can be stored as its last version and its consecutive pairs. Of the versions
that are visible the newest one is chosen, and what becomes visible elsewhere does not matter.
-/

namespace StockApi.VersionChain

open Relational

universe u v

variable {α : Type u} {τ : Type v} [LinearOrder τ] {stamp : α → τ}

/-- The consecutive pairs of a chain. -/
def revisions : List α → List (α × α)
  | [] => []
  | [_] => []
  | a :: b :: rest => (a, b) :: revisions (b :: rest)

/-- A new last version adds the pair of the former last version and itself. -/
theorem revisions_append (chain : List α) (v : α) :
    revisions (chain ++ [v]) = revisions chain ++ (chain.getLast?.map fun last => (last, v)).toList := by
  induction chain using revisions.induct with
  | case1 => rfl
  | case2 a => rfl
  | case3 a b rest ih =>
    simp only [List.cons_append, revisions] at ih ⊢
    rw [ih, List.getLast?_cons_cons]

theorem mem_of_mem_revisions {chain : List α} {p : α × α} (h : p ∈ revisions chain) :
    p.1 ∈ chain ∧ p.2 ∈ chain := by
  induction chain using revisions.induct with
  | case1 => cases h
  | case2 a => cases h
  | case3 a b rest ih =>
    rcases List.mem_cons.mp h with rfl | h
    · simp
    · exact ⟨List.mem_cons_of_mem _ (ih h).1, List.mem_cons_of_mem _ (ih h).2⟩

/-- The last version and both sides of the pairs are all the versions. -/
theorem mem_iff_lanes {chain : List α} {v : α} :
    v ∈ chain ↔ chain.getLast? = some v ∨ (∃ p ∈ revisions chain, p.1 = v) ∨
      ∃ p ∈ revisions chain, p.2 = v := by
  constructor
  · intro h
    induction chain using revisions.induct with
    | case1 => cases h
    | case2 a =>
      rw [List.mem_singleton.mp h]
      exact Or.inl rfl
    | case3 a b rest ih =>
      rcases List.mem_cons.mp h with rfl | h
      · exact Or.inr (Or.inl ⟨(v, b), by simp [revisions], rfl⟩)
      · rcases ih h with hLast | ⟨p, hMem, hp⟩ | ⟨p, hMem, hp⟩
        · exact Or.inl (by rwa [List.getLast?_cons_cons])
        · exact Or.inr (Or.inl ⟨p, List.mem_cons_of_mem _ hMem, hp⟩)
        · exact Or.inr (Or.inr ⟨p, List.mem_cons_of_mem _ hMem, hp⟩)
  · rintro (h | ⟨p, hMem, rfl⟩ | ⟨p, hMem, rfl⟩)
    · exact List.mem_of_getLast? h
    · exact (mem_of_mem_revisions hMem).1
    · exact (mem_of_mem_revisions hMem).2

section Order

variable {r : α → α → Prop}

theorem rel_of_mem_revisions {chain : List α} (h : chain.Pairwise r) {p : α × α}
    (hp : p ∈ revisions chain) : r p.1 p.2 := by
  induction chain using revisions.induct with
  | case1 => cases hp
  | case2 a => cases hp
  | case3 a b rest ih =>
    obtain ⟨hFirst, hRest⟩ := List.pairwise_cons.mp h
    rcases List.mem_cons.mp hp with rfl | hp
    · exact hFirst b (by simp)
    · exact ih hRest hp

theorem eq_or_rel_last {chain : List α} (h : chain.Pairwise r) {v last : α} (hv : v ∈ chain)
    (hLast : chain.getLast? = some last) : v = last ∨ r v last := by
  obtain ⟨rest, rfl⟩ := List.getLast?_eq_some_iff.mp hLast
  rcases List.mem_append.mp hv with hv | hv
  · exact Or.inr ((List.pairwise_append.mp h).2.2 v hv last (by simp))
  · exact Or.inl (List.mem_singleton.mp hv)

theorem rel_head_of_mem_revisions {b : α} {rest : List α} (h : (b :: rest).Pairwise r)
    {q : α × α} (hq : q ∈ revisions (b :: rest)) : r b q.2 := by
  obtain ⟨hFirst, -⟩ := List.pairwise_cons.mp h
  cases rest with
  | nil => cases hq
  | cons c rest =>
    rcases List.mem_cons.mp hq with rfl | hq
    · exact hFirst c (by simp)
    · exact hFirst q.2 (mem_of_mem_revisions hq).2

/-- The later sides of the pairs are ordered like the chain. -/
theorem revisions_pairwise {chain : List α} (h : chain.Pairwise r) :
    (revisions chain).Pairwise fun p q => r p.2 q.2 := by
  induction chain using revisions.induct with
  | case1 => exact List.Pairwise.nil
  | case2 a => exact List.Pairwise.nil
  | case3 a b rest ih =>
    obtain ⟨-, hRest⟩ := List.pairwise_cons.mp h
    exact List.pairwise_cons.mpr ⟨fun q hq => rel_head_of_mem_revisions hRest hq, ih hRest⟩

theorem pairwise_append_last (trans : ∀ a b c, r a b → r b c → r a c) {chain : List α}
    (h : chain.Pairwise r) {v : α} (later : ∀ last, chain.getLast? = some last → r last v) :
    (chain ++ [v]).Pairwise r := by
  rw [List.pairwise_append]
  refine ⟨h, List.pairwise_singleton _ _, ?_⟩
  intro a ha b hb
  rw [List.mem_singleton.mp hb]
  obtain ⟨last, hLast⟩ : ∃ last, chain.getLast? = some last :=
    ⟨_, List.getLast?_eq_some_getLast (List.ne_nil_of_mem ha)⟩
  rcases eq_or_rel_last h ha hLast with rfl | hEarlier
  · exact later a hLast
  · exact trans a last v hEarlier (later last hLast)

end Order

/-- Every version is stamped later than the one before it. -/
def Chain (stamp : α → τ) (chain : List α) : Prop := chain.Pairwise fun a b => stamp a < stamp b

/-- The stamp identifies a version. -/
theorem Chain.unique {chain : List α} (h : Chain stamp chain) :
    ∀ a ∈ chain, ∀ b ∈ chain, stamp a = stamp b → a = b := by
  have : Std.Symm fun a b : α => stamp a = stamp b → a = b :=
    ⟨fun _ _ hSame hEq => (hSame hEq.symm).symm⟩
  have hSame : chain.Pairwise fun a b => stamp a = stamp b → a = b :=
    h.imp fun hlt hEq => absurd hEq hlt.ne
  exact fun a ha b hb => hSame.forall_of_forall (fun _ _ _ => rfl) ha hb

theorem Chain.nodup {chain : List α} (h : Chain stamp chain) : chain.Nodup :=
  h.imp fun hlt hEq => hlt.ne (congrArg stamp hEq)

/-- The newest of the visible versions. -/
def newest (stamp : α → τ) (visible : α → Bool) (chain : List α) : Option α :=
  latestBy stamp (chain.filter visible)

theorem newest_congr {chain : List α} {visible visible' : α → Bool} (h : ∀ v ∈ chain, visible v = visible' v) :
    newest stamp visible chain = newest stamp visible' chain := by
  rw [newest, newest, List.filter_congr h]

theorem newest_eq_some_iff {chain : List α} (h : Chain stamp chain) {visible : α → Bool} {v : α} :
    newest stamp visible chain = some v ↔
      (v ∈ chain ∧ visible v = true) ∧
        ∀ other ∈ chain, visible other = true → stamp other ≤ stamp v := by
  have hUnique : ∀ a ∈ chain.filter visible, ∀ b ∈ chain.filter visible, stamp a = stamp b → a = b :=
    fun a ha b hb => h.unique a (List.mem_filter.mp ha).1 b (List.mem_filter.mp hb).1
  rw [newest, latestBy_eq_some_iff hUnique]
  simp only [List.mem_filter, and_imp]

/-- Versions that are added but not visible do not change the choice. -/
theorem newest_append_hidden {chain more : List α} {visible : α → Bool}
    (hidden : ∀ v ∈ more, visible v = false) :
    newest stamp visible (chain ++ more) = newest stamp visible chain := by
  have hNone : more.filter visible = [] := by
    rw [List.filter_eq_nil_iff]
    exact fun v hMem => by simp [hidden v hMem]
  rw [newest, newest, List.filter_append, hNone, List.append_nil]

end StockApi.VersionChain

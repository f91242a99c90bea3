import Mathlib.Algebra.Order.Monoid.Defs
import Mathlib.Data.List.Induction

/-!
# Counters that expire

A counter lives for a fixed time from its first increment and starts again after that. Increments of
one key that are less than that time apart all meet the same counter, so it counts them.
-/

namespace StockApi.ExpiringCounters

universe u v w

/-! ## Runs with answers -/

section Runs

variable {σ : Type u} {τ : Type*} {α : Type v} {β : Type w}

/-- What a machine answers to its inputs in turn. -/
def answers (step : σ → α → β × σ) : σ → List α → List β
  | _, [] => []
  | s, a :: rest => (step s a).1 :: answers step (step s a).2 rest

/-- Answers that depend on the inputs so far only. -/
def judged (judge : List α → α → β) : List α → List α → List β
  | _, [] => []
  | past, a :: rest => judge past a :: judged judge (past ++ [a]) rest

variable {judge : List α → α → β}

@[simp] theorem length_judged (past rest : List α) : (judged judge past rest).length = rest.length := by
  induction rest generalizing past with
  | nil => rfl
  | cons a rest ih => rw [judged, List.length_cons, List.length_cons, ih]

theorem judged_append (past rest : List α) (a : α) :
    judged judge past (rest ++ [a]) = judged judge past rest ++ [judge (past ++ rest) a] := by
  induction rest generalizing past with
  | nil => simp [judged]
  | cons b rest ih => simp [judged, ih]

/-- A machine whose state tracks the inputs so far answers from them. -/
theorem answers_eq_judged (tracks : List α → σ → Prop) {step : σ → α → β × σ} {R : α → α → Prop}
    (sound : ∀ past s a, (past ++ [a]).Pairwise R → tracks past s →
      (step s a).1 = judge past a ∧ tracks (past ++ [a]) (step s a).2)
    {past rest : List α} {s : σ} (h : (past ++ rest).Pairwise R) (start : tracks past s) :
    answers step s rest = judged judge past rest := by
  induction rest generalizing past s with
  | nil => rfl
  | cons a rest ih =>
    have hSplit : past ++ a :: rest = (past ++ [a]) ++ rest := by simp
    rw [hSplit] at h
    obtain ⟨hAnswer, hNext⟩ := sound past s a (List.pairwise_append.mp h).1 start
    rw [answers, judged, hAnswer, ih h hNext]

/-- Machines in lockstep give the same answers. -/
theorem answers_eq_of_simulates {step : σ → α → β × σ} {step' : τ → α → β × τ} {R : σ → τ → Prop}
    (simulates : ∀ s t a, R s t → (step s a).1 = (step' t a).1 ∧ R (step s a).2 (step' t a).2)
    {s : σ} {t : τ} (start : R s t) (inputs : List α) :
    answers step s inputs = answers step' t inputs := by
  induction inputs generalizing s t with
  | nil => rfl
  | cons a rest ih =>
    obtain ⟨hAnswer, hNext⟩ := simulates s t a start
    rw [answers, answers, hAnswer, ih hNext]

end Runs

/-! ## Counters -/

section Counters

variable {κ : Type u} {T : Type v} [DecidableEq κ] [LinearOrder T] [Add T]

/-- The count and the expiry of each key. -/
abbrev Counters (κ : Type u) (T : Type v) : Type (max u v) := κ → Option (Nat × T)

/-- An increment of a key at a time. -/
structure Increment (κ : Type u) (T : Type v) where
  key : κ
  time : T

def live (now : T) (c : Counters κ T) : Counters κ T := fun k => (c k).filter fun e => decide (now < e.2)

/-- The counter after one more increment. -/
def raised (ttl now : T) : Option (Nat × T) → Nat × T
  | none => (1, now + ttl)
  | some e => (e.1 + 1, e.2)

def advance (ttl : T) (c : Counters κ T) (i : Increment κ T) : Nat × Counters κ T :=
  ((raised ttl i.time (live i.time c i.key)).1,
    Function.update (live i.time c) i.key (some (raised ttl i.time (live i.time c i.key))))

/-- How often the key was incremented. -/
def tally (past : List (Increment κ T)) (k : κ) : Nat := past.countP fun i => decide (i.key = k)

omit [LinearOrder T] [Add T] in
theorem tally_append (past : List (Increment κ T)) (i : Increment κ T) (k : κ) :
    tally (past ++ [i]) k = tally past k + if i.key = k then 1 else 0 := by
  rw [tally, List.countP_append, List.countP_singleton]
  simp [tally]

/-- Increments in the order of time; those of one key are less than the lifetime apart. -/
def Close (ttl : T) (a b : Increment κ T) : Prop :=
  a.time ≤ b.time ∧ (a.key = b.key → b.time < a.time + ttl)

/-- A counter holds the number of increments of its key; a key without one has none or is over. -/
def Holds (ttl : T) (past : List (Increment κ T)) (k : κ) : Option (Nat × T) → Prop
  | some e => e.1 = tally past k ∧ ∃ first ∈ past, first.key = k ∧ e.2 = first.time + ttl
  | none => tally past k = 0 ∨
      ∃ first ∈ past, first.key = k ∧ ∃ last ∈ past, first.time + ttl ≤ last.time

def Tracks (ttl : T) (past : List (Increment κ T)) (c : Counters κ T) : Prop :=
  ∀ k, Holds ttl past k (c k)

theorem tracks_nil (ttl : T) : Tracks ttl ([] : List (Increment κ T)) (fun _ => none) :=
  fun _ => Or.inl rfl

variable {ttl : T} {past : List (Increment κ T)} {i : Increment κ T} {k : κ} {entry : Option (Nat × T)}

/-- The counter of the key is still there, if there was one, and has counted every increment. -/
theorem Holds.raised (before : ∀ p ∈ past, Close ttl p i) (h : Holds ttl past i.key entry) :
    (raised ttl i.time (entry.filter fun e => decide (i.time < e.2))).1 = tally past i.key + 1 ∧
      Holds ttl (past ++ [i]) i.key
        (some (raised ttl i.time (entry.filter fun e => decide (i.time < e.2)))) := by
  have hTally : tally (past ++ [i]) i.key = tally past i.key + 1 := by
    rw [tally_append, if_pos rfl]
  cases entry with
  | none =>
    rcases h with hZero | ⟨first, hFirst, hSame, last, hLast, hOver⟩
    · refine ⟨by rw [hZero]; rfl, ?_, i, by simp, rfl, rfl⟩
      rw [hTally, hZero]
      rfl
    · have hLate : i.time < first.time + ttl := (before first hFirst).2 hSame
      exact absurd (hOver.trans (before last hLast).1) (not_le.mpr hLate)
  | some e =>
    obtain ⟨hCount, first, hFirst, hSame, hExpiry⟩ := h
    have hLate : i.time < e.2 := by
      rw [hExpiry]
      exact (before first hFirst).2 hSame
    rw [Option.filter_some, if_pos (decide_eq_true hLate)]
    refine ⟨congrArg (· + 1) hCount, ?_, first, List.mem_append_left _ hFirst, hSame, hExpiry⟩
    rw [hTally, ← hCount]
    rfl

/-- Another key keeps its counter until it is over. -/
theorem Holds.live (other : i.key ≠ k) (h : Holds ttl past k entry) :
    Holds ttl (past ++ [i]) k (entry.filter fun e => decide (i.time < e.2)) := by
  have hTally : tally (past ++ [i]) k = tally past k := by rw [tally_append, if_neg other, Nat.add_zero]
  cases entry with
  | none =>
    rcases h with hZero | ⟨first, hFirst, hSame, last, hLast, hOver⟩
    · exact Or.inl (hTally.trans hZero)
    · exact Or.inr ⟨first, List.mem_append_left _ hFirst, hSame, last, List.mem_append_left _ hLast, hOver⟩
  | some e =>
    obtain ⟨hCount, first, hFirst, hSame, hExpiry⟩ := h
    rw [Option.filter_some]
    split_ifs with hLive
    · exact ⟨hCount.trans hTally.symm, first, List.mem_append_left _ hFirst, hSame, hExpiry⟩
    · have hOver : first.time + ttl ≤ i.time := by
        rw [← hExpiry]
        exact not_lt.mp fun h => hLive (decide_eq_true h)
      exact Or.inr ⟨first, List.mem_append_left _ hFirst, hSame, i, by simp, hOver⟩

theorem advance_sound {c : Counters κ T} (close : (past ++ [i]).Pairwise (Close ttl))
    (h : Tracks ttl past c) :
    (advance ttl c i).1 = tally past i.key + 1 ∧
      Tracks ttl (past ++ [i]) (advance ttl c i).2 := by
  have hBefore : ∀ p ∈ past, Close ttl p i := fun p hp =>
    (List.pairwise_append.mp close).2.2 p hp i (List.mem_singleton_self i)
  obtain ⟨hAnswer, hEntry⟩ := (h i.key).raised hBefore
  refine ⟨hAnswer, fun k => ?_⟩
  unfold advance
  dsimp only
  by_cases hSame : k = i.key
  · subst hSame
    rw [Function.update_self]
    exact hEntry
  · rw [Function.update_of_ne hSame]
    exact (h k).live (Ne.symm hSame)

/-- No increment is forgotten: the answers are the numbers of increments so far. -/
theorem answers_advance {inputs : List (Increment κ T)} (close : inputs.Pairwise (Close ttl)) :
    answers (advance ttl) (fun _ => none) inputs =
      judged (fun past i => tally past i.key + 1) [] inputs := by
  apply answers_eq_judged (Tracks ttl) (fun past c i => advance_sound) _ (tracks_nil ttl)
  rwa [List.nil_append]

end Counters

end StockApi.ExpiringCounters

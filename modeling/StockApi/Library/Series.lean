import Mathlib.Data.List.TakeDrop
import Mathlib.Data.List.Basic
import Mathlib.Data.List.ReduceOption
import Mathlib.Data.List.Induction

/-!
# Causal series

The entry of a causal series at a position is determined by the observations up to it. Such a series
is `running g` for the value `g` of its last entry; a prefix of the observations gives a prefix of it.
-/

namespace StockApi.Series

universe u v w

variable {α : Type u} {β : Type v} {γ : Type w}

/-- The entries that `g` gives to the prefixes of the observations. -/
def running (g : List α → Option β) (xs : List α) : List (Option β) :=
  (List.range xs.length).map fun i => g (xs.take (i + 1))

variable {g : List α → Option β} {xs : List α}

@[simp] theorem length_running (g : List α → Option β) (xs : List α) :
    (running g xs).length = xs.length := by
  rw [running, List.length_map, List.length_range]

theorem getElem?_running {i : Nat} (h : i < xs.length) :
    (running g xs)[i]? = some (g (xs.take (i + 1))) := by
  rw [running, List.getElem?_map, List.getElem?_range h]
  rfl

theorem eq_running {ys : List (Option β)} (length : ys.length = xs.length)
    (entries : ∀ i, i < xs.length → ys[i]? = some (g (xs.take (i + 1)))) : ys = running g xs := by
  apply List.ext_getElem?
  intro i
  by_cases h : i < xs.length
  · rw [entries i h, getElem?_running h]
  · rw [List.getElem?_eq_none (by omega), List.getElem?_eq_none (by rw [length_running]; omega)]

/-- A prefix of the observations gives a prefix of the series. -/
theorem running_take (k : Nat) : running g (xs.take k) = (running g xs).take k := by
  symm
  apply eq_running
  · rw [List.length_take, List.length_take, length_running]
  · intro i h
    rw [List.length_take] at h
    rw [List.getElem?_take, if_pos (by omega), getElem?_running (by omega), List.take_take,
      Nat.min_eq_left (by omega)]

theorem running_congr {g' : List α → Option β} (same : ∀ p, p ≠ [] → g p = g' p) :
    running g xs = running g' xs := by
  apply eq_running (length_running g xs)
  intro i h
  rw [getElem?_running h, same]
  intro hNil
  have hLength := congrArg List.length hNil
  rw [List.length_take, List.length_nil] at hLength
  omega

/-- Every entry is the value of a prefix. -/
theorem exists_of_getElem?_running {i : Nat} {v : β} (h : (running g xs)[i]? = some (some v)) :
    i < xs.length ∧ g (xs.take (i + 1)) = some v := by
  have hLength : i < xs.length := by
    have hSome := (List.getElem?_eq_some_iff.mp h).1
    rwa [length_running] at hSome
  rw [getElem?_running hLength, Option.some.injEq] at h
  exact ⟨hLength, h⟩

theorem getLast?_running (h : xs ≠ []) : (running g xs).getLast? = some (g xs) := by
  have hPos : 0 < xs.length := List.length_pos_iff.mpr h
  rw [List.getLast?_eq_getElem?, length_running, getElem?_running (by omega),
    List.take_of_length_le (by omega)]

theorem running_map {δ : Type*} (f : β → δ) (g : List α → Option β) (xs : List α) :
    (running g xs).map (Option.map f) = running (fun p => (g p).map f) xs := by
  rw [running, running, List.map_map]
  rfl

/-- Observations that are converted first. -/
theorem running_comp_map {δ : Type*} (f : δ → α) (ys : List δ) :
    running g (ys.map f) = running (fun p => g (p.map f)) ys := by
  rw [running, running, List.length_map]
  apply List.map_congr_left
  intro i _
  rw [List.map_take]

/-- The series is missing on the first `w` positions and nowhere else. -/
def WarmUp (w : Nat) (g : List α → Option β) : Prop := ∀ p, g p = none ↔ p.length ≤ w

theorem WarmUp.getElem?_running {w : Nat} (warm : WarmUp w g) {i : Nat} (h : i < xs.length) :
    (running g xs)[i]? = some none ↔ i < w := by
  rw [Series.getElem?_running h, Option.some.injEq, warm, List.length_take]
  omega

/-! ## Windows -/

/-- The value of the last `w` observations. -/
def windowed (w : Nat) (value : List α → β) (p : List α) : Option β :=
  if p.length < w then none else some (value (p.drop (p.length - w)))

theorem warmUp_windowed {w : Nat} (pos : 0 < w) (value : List α → β) :
    WarmUp (w - 1) (windowed w value) := by
  intro p
  unfold windowed
  split_ifs with h
  · simp only [true_iff]
    omega
  · simp only [false_iff]
    omega

theorem windowed_eq_some {w : Nat} {value : List α → β} {p : List α} {v : β}
    (h : windowed w value p = some v) : w ≤ p.length ∧ value (p.drop (p.length - w)) = v := by
  unfold windowed at h
  split_ifs at h with hShort
  exact ⟨Nat.not_lt.mp hShort, Option.some.inj h⟩

/-! ## Recurrences -/

section Recurrence

variable {σ : Type v} {w : Nat} {seed : List α → σ} {step : σ → α → σ}

/-- A recurrence that starts from the first `w` observations. -/
def settled (w : Nat) (seed : List α → σ) (step : σ → α → σ) (p : List α) : Option σ :=
  if p.length < w then none else some ((p.drop w).foldl step (seed (p.take w)))

theorem warmUp_settled (pos : 0 < w) : WarmUp (w - 1) (settled w seed step) := by
  intro p
  unfold settled
  split_ifs with h
  · simp only [true_iff]
    omega
  · simp only [false_iff]
    omega

/-- A property of the seed that each step keeps. -/
theorem settled_invariant (inv : σ → Prop) {p : List α} {s : σ} (h : settled w seed step p = some s)
    (start : inv (seed (p.take w))) (keeps : ∀ s, inv s → ∀ x ∈ p, inv (step s x)) : inv s := by
  unfold settled at h
  split_ifs at h
  cases h
  have hAll : ∀ (rest : List α), (∀ x ∈ rest, x ∈ p) → ∀ s, inv s → inv (rest.foldl step s) := by
    intro rest
    induction rest with
    | nil => exact fun _ s hs => hs
    | cons x rest ih =>
      intro hMem s hs
      exact ih (fun y hy => hMem y (List.mem_cons_of_mem _ hy)) _
        (keeps s hs x (hMem x List.mem_cons_self))
  exact hAll _ (fun x hx => List.mem_of_mem_drop hx) _ start

theorem settled_map {δ : Type*} {τ : Type*} {seed' : List δ → τ} {step' : τ → δ → τ} {f : α → δ} {φ : σ → τ}
    (starts : ∀ p, seed' (p.map f) = φ (seed p)) (steps : ∀ s x, step' (φ s) (f x) = φ (step s x))
    (p : List α) : settled w seed' step' (p.map f) = (settled w seed step p).map φ := by
  have hFold : ∀ (rest : List α) s, (rest.map f).foldl step' (φ s) = φ (rest.foldl step s) := by
    intro rest
    induction rest with
    | nil => exact fun _ => rfl
    | cons x rest ih =>
      intro s
      rw [List.map_cons, List.foldl_cons, List.foldl_cons, steps, ih]
  unfold settled
  rw [List.length_map]
  split_ifs
  · rfl
  · rw [← List.map_drop, ← List.map_take, starts, hFold]
    rfl

/-- The loop that fills the series from position `w - 1` on. -/
theorem scanl_eq_running (pos : 0 < w) (long : w ≤ xs.length) :
    List.replicate (w - 1) none ++ ((xs.drop w).scanl step (seed (xs.take w))).map some =
      running (settled w seed step) xs := by
  apply eq_running
  · rw [List.length_append, List.length_replicate, List.length_map, List.length_scanl, List.length_drop]
    omega
  · intro i h
    rw [List.getElem?_append, List.length_replicate, settled, List.length_take,
      Nat.min_eq_left (by omega : i + 1 ≤ xs.length)]
    split_ifs with hWarm hShort hShort
    · rw [List.getElem?_replicate, if_pos hWarm]
    · omega
    · omega
    · have hIndex : i - (w - 1) < ((xs.drop w).scanl step (seed (xs.take w))).length := by
        rw [List.length_scanl, List.length_drop]
        omega
      rw [List.getElem?_map, List.getElem?_eq_getElem hIndex, Option.map_some, List.getElem_scanl,
        List.take_take, Nat.min_eq_left (by omega : w ≤ i + 1), List.drop_take]
      have hOffset : i - (w - 1) = i + 1 - w := by omega
      rw [hOffset]

theorem replicate_eq_running (short : xs.length < w) :
    List.replicate xs.length none = running (settled w seed step) xs := by
  apply eq_running (List.length_replicate)
  intro i h
  rw [List.getElem?_replicate, if_pos h, settled, List.length_take, if_pos (by omega)]

end Recurrence

/-! ## Series of derived observations -/

section Derived

variable {h : List α → List γ} {k : List γ → Option β} {w : Nat}

/-- `h` gives its first value with observation `w + 1`, and then one with each observation. -/
structure Delayed (w : Nat) (h : List α → List γ) : Prop where
  length : ∀ xs, (h xs).length = xs.length - w
  take : ∀ xs n, h (xs.take n) = (h xs).take (n - w)

/-- A series of derived values, put back to the positions of the observations. -/
theorem Delayed.running (delayed : Delayed w h) (missing : k [] = none) :
    List.replicate (min w xs.length) none ++ running k (h xs) = running (fun p => k (h p)) xs := by
  apply eq_running
  · rw [List.length_append, List.length_replicate, length_running, delayed.length]
    omega
  · intro i hi
    rw [List.getElem?_append, List.length_replicate, delayed.take]
    split_ifs with hWarm
    · rw [List.getElem?_replicate, if_pos hWarm]
      have hZero : i + 1 - w = 0 := by omega
      rw [hZero, List.take_zero, missing]
    · rw [getElem?_running (by rw [delayed.length]; omega)]
      have hIndex : i - min w xs.length + 1 = i + 1 - w := by omega
      rw [hIndex]

theorem Delayed.warmUp (delayed : Delayed w h) {m : Nat} (warm : WarmUp m k) :
    WarmUp (m + w) fun p => k (h p) := by
  intro p
  rw [warm, delayed.length]
  omega

/-- The values of neighbouring observations. -/
def pairs (f : α → α → γ) (xs : List α) : List γ := List.zipWith f xs xs.tail

theorem delayed_pairs (f : α → α → γ) : Delayed 1 (pairs f) := by
  constructor
  · intro xs
    rw [pairs, List.length_zipWith, List.length_tail]
    omega
  · intro xs n
    rw [pairs, pairs, List.take_zipWith]
    apply List.ext_getElem?
    intro i
    simp only [List.getElem?_zipWith, List.getElem?_take, List.getElem?_tail]
    by_cases hi : i + 1 < n
    · rw [if_pos (by omega : i < n), if_pos hi, if_pos (by omega : i < n - 1), if_pos (by omega : i < n - 1)]
    · rw [if_neg hi, if_neg (by omega : ¬ i < n - 1), if_neg (by omega : ¬ i < n - 1)]
      by_cases hLast : i < n
      · rw [if_pos hLast]
        cases xs[i]? <;> rfl
      · rw [if_neg hLast]

theorem running_append (g : List α → Option β) (xs : List α) (x : α) :
    running g (xs ++ [x]) = running g xs ++ [g (xs ++ [x])] := by
  symm
  apply eq_running
  · simp
  · intro i h
    rw [List.length_append, List.length_singleton] at h
    rw [List.getElem?_append, length_running]
    split_ifs with hi
    · rw [getElem?_running hi, List.take_append_of_le_length hi]
    · have hLast : i = xs.length := by omega
      rw [hLast, Nat.sub_self, List.take_of_length_le (by simp)]
      rfl

/-- The entries that are there, of a series that is missing up to position `w` only. -/
theorem delayed_reduceOption {g : List α → Option β} (warm : WarmUp w g) :
    Delayed w fun xs => (Series.running g xs).reduceOption := by
  have hLength : ∀ xs, (Series.running g xs).reduceOption.length = xs.length - w := by
    intro xs
    induction xs using List.reverseRecOn with
    | nil => exact (Nat.zero_sub w).symm
    | append_singleton xs x ih =>
      have hEntry := warm (xs ++ [x])
      rw [List.length_append, List.length_singleton] at hEntry ⊢
      rw [running_append, List.reduceOption_append, List.length_append, ih]
      cases hValue : g (xs ++ [x]) with
      | none =>
        have hShort := hEntry.mp hValue
        rw [List.reduceOption_singleton, Option.toList_none, List.length_nil]
        omega
      | some v =>
        have hLong : ¬ xs.length + 1 ≤ w := fun hShort => by rw [hEntry.mpr hShort] at hValue; cases hValue
        rw [List.reduceOption_singleton, Option.toList_some, List.length_singleton]
        omega
  refine ⟨hLength, fun xs n => ?_⟩
  have hSplit : (Series.running g xs).reduceOption =
      (Series.running g (xs.take n)).reduceOption ++ ((Series.running g xs).drop n).reduceOption := by
    rw [running_take, ← List.reduceOption_append, List.take_append_drop]
  rcases Nat.le_total n xs.length with hn | hn
  · rw [hSplit]
    symm
    apply List.take_left'
    rw [hLength, List.length_take, Nat.min_eq_left hn]
  · rw [List.take_of_length_le hn, List.take_of_length_le]
    rw [hLength]
    omega

end Derived

end StockApi.Series

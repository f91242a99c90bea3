import StockApi.RateLimit.Limiter

/-!
# The quota

The decisions do not depend on the backend: a hit is judged by the earlier hits of its identity in
its window.
-/

namespace StockApi.RateLimit

open ExpiringCounters

namespace ApiRateLimiter

theorem countP_le_add {α : Type} {p q r : α → Bool} (h : ∀ x, p x = true → q x = true ∨ r x = true)
    (xs : List α) : xs.countP p ≤ xs.countP q + xs.countP r := by
  induction xs with
  | nil => exact Nat.zero_le _
  | cons x rest ih =>
    have hHead := h x
    simp only [List.countP_cons]
    split_ifs <;> simp_all <;> omega

section Counting

variable {T : Type} [Field T] [LinearOrder T] [FloorRing T] (l : ApiRateLimiter)

/-- The hit as an increment of its bucket, on a clock ahead by `offset`. -/
def incrementOf (offset : T) (h : Hit T) : Increment String T :=
  ⟨l.bucket h.identity (l.windowIndex h.time), h.time + offset⟩

/-- A hit on the quota of an identity in a window. -/
def OnQuota (identity : String) (w : Int) (h : Hit T) : Prop :=
  h.identity = identity ∧ l.windowIndex h.time = w

instance (identity : String) (w : Int) (h : Hit T) : Decidable (l.OnQuota identity w h) :=
  inferInstanceAs (Decidable (_ ∧ _))

def hitsOn (identity : String) (w : Int) (hits : List (Hit T)) : Nat :=
  hits.countP fun h => decide (l.OnQuota identity w h)

/-- The decisions, from the hits alone. -/
def decisions (hits : List (Hit T)) : List RateLimitDecision :=
  judged (fun past h => l.decision h.time (l.hitsOn h.identity (l.windowIndex h.time) past + 1)) [] hits

variable {l}

theorem tally_incrementOf (offset : T) (past : List (Hit T)) (h : Hit T) :
    tally (past.map (l.incrementOf offset)) (l.incrementOf offset h).key =
      l.hitsOn h.identity (l.windowIndex h.time) past := by
  rw [tally, List.countP_map, hitsOn]
  congr 1
  funext p
  exact decide_eq_decide.mpr l.bucket_inj

theorem zip_append (hits : List (Hit T)) (h : Hit T) :
    (hits ++ [h]).zip (l.decisions (hits ++ [h])) = hits.zip (l.decisions hits) ++
      [(h, l.decision h.time (l.hitsOn h.identity (l.windowIndex h.time) hits + 1))] := by
  have hLength : hits.length = (l.decisions hits).length := (length_judged _ _).symm
  have hDecisions : l.decisions (hits ++ [h]) = l.decisions hits ++
      [l.decision h.time (l.hitsOn h.identity (l.windowIndex h.time) hits + 1)] := by
    rw [decisions, judged_append, List.nil_append]
    rfl
  rw [hDecisions, List.zip_append hLength]
  rfl

theorem hitsOn_append (identity : String) (w : Int) (hits : List (Hit T)) (h : Hit T) :
    l.hitsOn identity w (hits ++ [h]) =
      l.hitsOn identity w hits + if l.OnQuota identity w h then 1 else 0 := by
  rw [hitsOn, List.countP_append, List.countP_singleton]
  simp [hitsOn]

/-- The hits of an identity in a window are allowed up to the limit, and what remains counts down. -/
theorem decisions_onQuota (identity : String) (w : Int) (hits : List (Hit T)) :
    ((hits.zip (l.decisions hits)).filter fun x => decide (l.OnQuota identity w x.1)).map
        (fun x => (x.2.allowed, x.2.remaining)) =
      (List.range (l.hitsOn identity w hits)).map fun j =>
        (decide (j < l.limit), l.limit - (j + 1)) := by
  induction hits using List.reverseRecOn with
  | nil => rfl
  | append_singleton hits h ih =>
    rw [zip_append, List.filter_append, List.map_append, ih, hitsOn_append]
    by_cases hOn : l.OnQuota identity w h
    · obtain ⟨rfl, rfl⟩ := hOn
      have hSelf : l.OnQuota h.identity (l.windowIndex h.time) h := ⟨rfl, rfl⟩
      rw [if_pos hSelf, List.range_succ, List.map_append]
      simp [hSelf, decision, Nat.add_one_le_iff]
    · simp [hOn]

/-- No window of an identity allows more than the limit. -/
theorem allowed_onQuota_le (identity : String) (w : Int) (hits : List (Hit T)) :
    (hits.zip (l.decisions hits)).countP (fun x => decide (l.OnQuota identity w x.1) && x.2.allowed) ≤
      l.limit := by
  have hFilter : (hits.zip (l.decisions hits)).countP
      (fun x => decide (l.OnQuota identity w x.1) && x.2.allowed) =
        (((hits.zip (l.decisions hits)).filter fun x => decide (l.OnQuota identity w x.1)).map
          fun x => (x.2.allowed, x.2.remaining)).countP Prod.fst := by
    rw [List.countP_map, List.countP_filter]
    simp only [Function.comp_apply, Bool.and_comm]
  rw [hFilter, decisions_onQuota, List.countP_map]
  calc (List.range (l.hitsOn identity w hits)).countP (fun j => decide (j < l.limit))
      = ((List.range (l.hitsOn identity w hits)).filter fun j => decide (j < l.limit)).length :=
        List.countP_eq_length_filter
    _ ≤ (List.range l.limit).length := by
        apply List.Subperm.length_le
        apply List.Nodup.subperm (List.nodup_range.filter _)
        intro j hj
        exact List.mem_range.mpr (of_decide_eq_true (List.mem_filter.mp hj).2)
    _ = l.limit := List.length_range

theorem decision_of_mem {hits : List (Hit T)} {x : Hit T × RateLimitDecision}
    (h : x ∈ hits.zip (l.decisions hits)) : ∃ count, x.2 = l.decision x.1.time count := by
  induction hits using List.reverseRecOn with
  | nil => cases h
  | append_singleton hits last ih =>
    rw [zip_append, List.mem_append, List.mem_singleton] at h
    rcases h with hEarlier | rfl
    · exact ih hEarlier
    · exact ⟨_, rfl⟩

/-- The hits of other identities change nothing. -/
theorem decisions_filter (identity : String) (hits : List (Hit T)) :
    ((hits.zip (l.decisions hits)).filter fun x => decide (x.1.identity = identity)).map Prod.snd =
      l.decisions (hits.filter fun h => decide (h.identity = identity)) := by
  have hLength : ∀ hits : List (Hit T), (l.decisions hits).length = hits.length :=
    fun _ => length_judged _ _
  induction hits using List.reverseRecOn with
  | nil => rfl
  | append_singleton hits h ih =>
    rw [zip_append, List.filter_append, List.filter_append, List.map_append, ih]
    by_cases hIdentity : h.identity = identity
    · have hCount : l.hitsOn h.identity (l.windowIndex h.time) (hits.filter fun h => decide (h.identity = identity)) =
          l.hitsOn h.identity (l.windowIndex h.time) hits := by
        rw [hitsOn, hitsOn, List.countP_filter]
        congr 1
        funext p
        by_cases hOn : l.OnQuota h.identity (l.windowIndex h.time) p
        · simp [hOn.1, hIdentity]
        · simp [hOn]
      have hJudged : l.decisions ((hits.filter fun h => decide (h.identity = identity)) ++ [h]) =
          l.decisions (hits.filter fun h => decide (h.identity = identity)) ++
            [l.decision h.time (l.hitsOn h.identity (l.windowIndex h.time) hits + 1)] := by
        rw [decisions, judged_append, List.nil_append, hCount]
        rfl
      have hKept : [h].filter (fun h => decide (h.identity = identity)) = [h] := by simp [hIdentity]
      rw [hKept, hJudged]
      simp [hIdentity]
    · simp [hIdentity]

end Counting

/-! ## Windows -/

section Windows

variable {T : Type} [Field T] [LinearOrder T] [IsStrictOrderedRing T] {l : ApiRateLimiter}

theorem windowSeconds_pos : (0 : T) < (l.windowSeconds : T) := Nat.cast_pos.mpr l.positive

variable [FloorRing T]

/-- A time lies in its window. -/
theorem windowIndex_eq_iff {now : T} {w : Int} :
    l.windowIndex now = w ↔ (w : T) * l.windowSeconds ≤ now ∧ now < ((w : T) + 1) * l.windowSeconds := by
  have hPos : (0 : T) < (l.windowSeconds : T) := windowSeconds_pos
  rw [windowIndex, Int.floor_eq_iff, le_div_iff₀ hPos, div_lt_iff₀ hPos]

/-- An interval of one window's length meets two windows. -/
theorem window_of_between {a now : T} (hFrom : a ≤ now) (hTo : now < a + l.windowSeconds) :
    l.windowIndex now = l.windowIndex a ∨ l.windowIndex now = l.windowIndex a + 1 := by
  obtain ⟨hLow, hHigh⟩ := windowIndex_eq_iff.mp (rfl : l.windowIndex a = _)
  rw [windowIndex_eq_iff, windowIndex_eq_iff]
  push_cast
  rcases lt_or_ge now (((l.windowIndex a : T) + 1) * l.windowSeconds) with hBefore | hAfter
  · exact Or.inl ⟨hLow.trans hFrom, hBefore⟩
  · refine Or.inr ⟨hAfter, ?_⟩
    linarith

/-- A retry after `reset_after` seconds comes after the window. -/
theorem windowIndex_lt_retry (now : T) (count : Nat) :
    l.windowIndex now < l.windowIndex (now + ((l.decision now count).resetAfter : T)) := by
  have hPos : (0 : T) < (l.windowSeconds : T) := windowSeconds_pos
  have hReset : ((l.windowIndex now + 1 : Int) : T) * (l.windowSeconds : T) - now ≤
      ((l.decision now count).resetAfter : T) :=
    (Int.le_ceil _).trans (Int.cast_le.mpr (le_max_right _ _))
  rw [← Int.add_one_le_iff]
  unfold windowIndex
  rw [Int.le_floor, le_div_iff₀ hPos]
  unfold windowIndex at hReset
  linarith

/-! ## Backends -/

/-- The bucket of a window outlives the window. -/
theorem close_of_le {offset : T} {a b : Hit T} (h : a.time ≤ b.time) :
    Close ((l.windowSeconds : T) * 2) (l.incrementOf offset a) (l.incrementOf offset b) := by
  refine ⟨add_le_add_left h offset, fun hKey => ?_⟩
  obtain ⟨-, hWindow⟩ := l.bucket_inj.mp hKey
  obtain ⟨hFrom, -⟩ := windowIndex_eq_iff.mp (rfl : l.windowIndex a.time = _)
  obtain ⟨-, hTo⟩ := windowIndex_eq_iff.mp hWindow.symm
  have hPos : (0 : T) < (l.windowSeconds : T) := windowSeconds_pos
  simp only [incrementOf]
  linarith

/-- Over counters that expire, a hit is judged by the hits of its window. -/
theorem answers_hit_advance {hits : List (Hit T)} (offset : T)
    (ordered : hits.Pairwise fun a b => a.time ≤ b.time) :
    answers (l.hit (fun c bucket ttl now => advance ttl c ⟨bucket, now⟩) offset)
      (fun _ => none) hits = l.decisions hits := by
  apply answers_eq_judged (fun past c =>
    Tracks ((l.windowSeconds : T) * 2) (past.map (l.incrementOf offset)) c) _ ordered (tracks_nil _)
  intro past c h hOrdered hTracks
  have hClose : (past.map (l.incrementOf offset) ++ [l.incrementOf offset h]).Pairwise
      (Close ((l.windowSeconds : T) * 2)) := by
    have hMap : past.map (l.incrementOf offset) ++ [l.incrementOf offset h] =
        (past ++ [h]).map (l.incrementOf offset) := by simp
    rw [hMap, List.pairwise_map]
    exact hOrdered.imp close_of_le
  obtain ⟨hAnswer, hNext⟩ := advance_sound hClose hTracks
  rw [tally_incrementOf] at hAnswer
  refine ⟨congrArg (l.decision h.time) hAnswer, ?_⟩
  rw [List.map_append, List.map_singleton]
  exact hNext

/-- A backend whose state holds the counters judges as they do. -/
theorem answers_hit {σ : Type} {increment : σ → String → T → T → Nat × σ}
    (holds : σ → Counters String T → Prop)
    (step : ∀ s c bucket ttl now, holds s c →
      (increment s bucket ttl now).1 = (advance ttl c ⟨bucket, now⟩).1 ∧
        holds (increment s bucket ttl now).2 (advance ttl c ⟨bucket, now⟩).2)
    {s : σ} (start : holds s fun _ => none) {hits : List (Hit T)} (offset : T)
    (ordered : hits.Pairwise fun a b => a.time ≤ b.time) :
    answers (l.hit increment offset) s hits = l.decisions hits := by
  rw [← answers_hit_advance offset ordered]
  apply answers_eq_of_simulates (fun s c h hHolds => ?_) start
  obtain ⟨hAnswer, hNext⟩ := step s c _ _ _ hHolds
  exact ⟨congrArg (l.decision h.time) hAnswer, hNext⟩

theorem memoryDecisions_eq {hits : List (Hit T)} (offset : T)
    (ordered : hits.Pairwise fun a b => a.time ≤ b.time) :
    l.memoryDecisions offset hits = l.decisions hits := by
  apply answers_hit MemoryRateLimitBackend.Holds (fun _ _ _ _ _ h => h.increment) _ offset ordered
  exact ⟨List.nodup_nil, fun _ => rfl, fun _ => rfl⟩

theorem redisDecisions_eq {hits : List (Hit T)} (offset : T)
    (ordered : hits.Pairwise fun a b => a.time ≤ b.time) :
    l.redisDecisions offset hits = l.decisions hits := by
  apply answers_hit RedisStore.Holds (fun _ _ _ _ _ h => h.increment) _ offset ordered
  exact ⟨fun _ _ h => absurd h (Option.some_ne_none _).symm, List.nodup_nil, fun _ => rfl⟩

/-! ## Any interval -/

theorem allowed_between_le (identity : String) (a : T) (hits : List (Hit T)) :
    (hits.zip (l.decisions hits)).countP (fun x => decide (x.1.identity = identity ∧
      a ≤ x.1.time ∧ x.1.time < a + l.windowSeconds) && x.2.allowed) ≤ 2 * l.limit := by
  have hFirst : _ ≤ l.limit := allowed_onQuota_le identity (l.windowIndex a) hits
  have hSecond : _ ≤ l.limit := allowed_onQuota_le identity (l.windowIndex a + 1) hits
  refine (countP_le_add (fun x hx => ?_) _).trans (by rw [Nat.two_mul]; exact Nat.add_le_add hFirst hSecond)
  obtain ⟨hBetween, hAllowed⟩ := Bool.and_eq_true_iff.mp hx
  obtain ⟨hIdentity, hFrom, hTo⟩ := of_decide_eq_true hBetween
  rcases window_of_between hFrom hTo with hWindow | hWindow
  · exact Or.inl (Bool.and_eq_true_iff.mpr ⟨decide_eq_true ⟨hIdentity, hWindow⟩, hAllowed⟩)
  · exact Or.inr (Bool.and_eq_true_iff.mpr ⟨decide_eq_true ⟨hIdentity, hWindow⟩, hAllowed⟩)

/-- Both backends give the same decisions. In each window an identity has its first `limit` hits
allowed, with what remains counting down; an interval of one window's length allows at most twice
the limit; the hits of other identities change nothing; and a retry after `reset_after` seconds
comes in a later window. -/
theorem quota_holds (l : ApiRateLimiter) (monotonic server : T) {hits : List (Hit T)}
    (ordered : hits.Pairwise fun a b => a.time ≤ b.time) :
    l.redisDecisions server hits = l.memoryDecisions monotonic hits ∧
    (∀ identity w,
      ((hits.zip (l.memoryDecisions monotonic hits)).filter fun x =>
          decide (x.1.identity = identity ∧ l.windowIndex x.1.time = w)).map
            (fun x => (x.2.allowed, x.2.remaining)) =
        (List.range (hits.countP fun h => decide (h.identity = identity ∧ l.windowIndex h.time = w))).map
          fun j => (decide (j < l.limit), l.limit - (j + 1))) ∧
    (∀ identity, ∀ a : T,
      (hits.zip (l.memoryDecisions monotonic hits)).countP (fun x => decide (x.1.identity = identity ∧
        a ≤ x.1.time ∧ x.1.time < a + l.windowSeconds) && x.2.allowed) ≤ 2 * l.limit) ∧
    (∀ identity,
      ((hits.zip (l.memoryDecisions monotonic hits)).filter fun x =>
          decide (x.1.identity = identity)).map Prod.snd =
        l.memoryDecisions monotonic (hits.filter fun h => decide (h.identity = identity))) ∧
    ∀ x ∈ hits.zip (l.memoryDecisions monotonic hits),
      l.windowIndex x.1.time < l.windowIndex (x.1.time + (x.2.resetAfter : T)) := by
  rw [memoryDecisions_eq monotonic ordered, redisDecisions_eq server ordered]
  refine ⟨rfl, fun identity w => decisions_onQuota identity w hits,
    fun identity a => allowed_between_le identity a hits, fun identity => ?_, ?_⟩
  · rw [memoryDecisions_eq monotonic (ordered.filter _)]
    exact decisions_filter identity hits
  · intro x hx
    obtain ⟨count, hCount⟩ := decision_of_mem hx
    rw [hCount]
    exact windowIndex_lt_retry x.1.time count

/-- Two hits at the end of a window and one at the start of the next. -/
def sampleHits : List (Hit ℚ) := [⟨"ip:10.0.0.1", 59⟩, ⟨"ip:10.0.0.1", 119 / 2⟩, ⟨"ip:10.0.0.1", 60⟩]

def sampleLimiter : ApiRateLimiter := ⟨1, 60, by decide⟩

theorem quota_holds_sample :
    sampleLimiter.redisDecisions 7 sampleHits = sampleLimiter.memoryDecisions 0 sampleHits :=
  (quota_holds sampleLimiter 0 7 (by norm_num [sampleHits])).1

end Windows

end ApiRateLimiter

end StockApi.RateLimit

import StockApi.Library.Dict
import StockApi.Library.ExpiringCounters
import StockApi.Library.Numerals
import Mathlib.Algebra.Order.Floor.Ring
import Mathlib.Data.Rat.Floor
import Mathlib.Tactic.Linarith

/-!
# The API rate limiter

`ApiRateLimiter.hit` counts the hits of an identity in the current window, in the process or in
Redis. Both backends keep a counter for two windows from its first hit, on a clock of their own
that runs with the limiter's. Times are exact.
-/

namespace StockApi.RateLimit

open ExpiringCounters

structure RateLimitDecision where
  allowed : Bool
  limit : Nat
  remaining : Nat
  resetAfter : Int
deriving DecidableEq

/-! ## Backends -/

section Backends

variable {T : Type} [LinearOrder T] [Add T]

structure MemoryRateLimitBackend (T : Type) where
  counts : List (String × Nat)
  expiries : List (String × T)

/-- The keys that expired leave both dictionaries. -/
def MemoryRateLimitBackend.sweep (b : MemoryRateLimitBackend T) (now : T) : MemoryRateLimitBackend T :=
  let expired := (b.expiries.filter fun e => decide (e.2 ≤ now)).map Prod.fst
  ⟨b.counts.filter fun c => decide (c.1 ∉ expired), b.expiries.filter fun e => decide (e.1 ∉ expired)⟩

def MemoryRateLimitBackend.increment (b : MemoryRateLimitBackend T) (bucket : String) (ttl now : T) :
    Nat × MemoryRateLimitBackend T :=
  let swept := b.sweep now
  let expiries := if bucket ∈ swept.counts.map Prod.fst then swept.expiries
    else Dict.insert bucket (now + ttl) swept.expiries
  let count := (swept.counts.lookup bucket).getD 0 + 1
  (count, ⟨Dict.insert bucket count swept.counts, expiries⟩)

/-- What Redis holds under a key. -/
structure RedisEntry (T : Type) where
  value : Nat
  expiresAt : Option T

abbrev RedisStore (T : Type) := List (String × RedisEntry T)

/-- A key vanishes at its expiry. -/
def RedisEntry.live (now : T) (e : RedisEntry T) : Bool :=
  match e.expiresAt with
  | none => true
  | some expiry => decide (now < expiry)

/-- `INCR`: a missing key counts from zero and has no expiry. -/
def RedisStore.incr (s : RedisStore T) (key : String) : Nat × RedisStore T :=
  match s.lookup key with
  | none => (1, Dict.insert key ⟨1, none⟩ s)
  | some e => (e.value + 1, Dict.insert key ⟨e.value + 1, e.expiresAt⟩ s)

/-- `EXPIRE`. -/
def RedisStore.expire (s : RedisStore T) (key : String) (expiry : T) : RedisStore T :=
  match s.lookup key with
  | none => s
  | some e => Dict.insert key ⟨e.value, some expiry⟩ s

/-- `_REDIS_INCREMENT_SCRIPT`. -/
def RedisStore.increment (s : RedisStore T) (bucket : String) (ttl now : T) : Nat × RedisStore T :=
  let incremented := RedisStore.incr (s.filter fun e => e.2.live now) bucket
  if incremented.1 = 1 then (incremented.1, incremented.2.expire bucket (now + ttl)) else incremented

end Backends

/-! ## The limiter -/

structure ApiRateLimiter where
  limit : Nat
  windowSeconds : Nat
  positive : 0 < windowSeconds

structure Hit (T : Type) where
  identity : String
  time : T
deriving DecidableEq

section Limiter

variable {T : Type} [Field T] [LinearOrder T] [FloorRing T] {σ : Type}

namespace ApiRateLimiter

variable (l : ApiRateLimiter)

/-- `int(now // self.window_seconds)`. -/
def windowIndex (now : T) : Int := ⌊now / (l.windowSeconds : T)⌋

def bucket (identity : String) (windowIndex : Int) : String :=
  "rl:" ++ identity ++ ":" ++ toString l.windowSeconds ++ ":" ++ toString windowIndex

def decision (now : T) (count : Nat) : RateLimitDecision where
  allowed := decide (count ≤ l.limit)
  limit := l.limit
  remaining := l.limit - count
  resetAfter := max 1 ⌈((l.windowIndex now + 1 : Int) : T) * (l.windowSeconds : T) - now⌉

/-- `hit`, over a backend whose clock is ahead of the limiter's by `offset`. -/
def hit (increment : σ → String → T → T → Nat × σ) (offset : T) (s : σ) (h : Hit T) :
    RateLimitDecision × σ :=
  let incremented := increment s (l.bucket h.identity (l.windowIndex h.time))
    ((l.windowSeconds : T) * 2) (h.time + offset)
  (l.decision h.time incremented.1, incremented.2)

/-- The decisions on a sequence of hits, over a new backend. -/
def memoryDecisions (offset : T) (hits : List (Hit T)) : List RateLimitDecision :=
  answers (l.hit MemoryRateLimitBackend.increment offset) ⟨[], []⟩ hits

def redisDecisions (offset : T) (hits : List (Hit T)) : List RateLimitDecision :=
  answers (l.hit RedisStore.increment offset) [] hits

end ApiRateLimiter

end Limiter

/-! ## Both backends hold expiring counters -/

section Refinement

variable {T : Type} [LinearOrder T] [Add T] {κ ν : Type}

theorem lookup_filter_key [DecidableEq κ] (p : κ → Bool) (d : List (κ × ν)) (k : κ) :
    (d.filter fun e => p e.1).lookup k = if p k then d.lookup k else none := by
  induction d with
  | nil => simp
  | cons e rest ih =>
    obtain ⟨key, value⟩ := e
    by_cases hSame : k = key
    · subst hSame
      by_cases hKept : p k
      · simp [hKept]
      · simp [hKept, ih]
    · have hTest : (k == key) = false := beq_eq_false_iff_ne.mpr hSame
      by_cases hKept : p key
      · simp [hKept, List.lookup_cons, hTest, ih]
      · simp [hKept, List.lookup_cons, hTest, ih]

theorem lookup_filter_value [DecidableEq κ] (p : ν → Bool) {d : List (κ × ν)}
    (nodup : (d.map Prod.fst).Nodup) (k : κ) :
    (d.filter fun e => p e.2).lookup k = (d.lookup k).filter p := by
  induction d with
  | nil => rfl
  | cons e rest ih =>
    obtain ⟨key, value⟩ := e
    rw [List.map_cons, List.nodup_cons] at nodup
    by_cases hSame : k = key
    · subst hSame
      have hAbsent : rest.lookup k = none := by
        rw [List.lookup_eq_none_iff]
        intro e he
        exact bne_iff_ne.mpr fun hKey => nodup.1 (List.mem_map.mpr ⟨e, he, hKey.symm⟩)
      by_cases hKept : p value
      · simp [hKept, Option.filter_some]
      · simp [hKept, ih nodup.2, hAbsent, Option.filter_some]
    · have hTest : (k == key) = false := beq_eq_false_iff_ne.mpr hSame
      by_cases hKept : p value
      · simp [hKept, List.lookup_cons, hTest, ih nodup.2]
      · simp [hKept, List.lookup_cons, hTest, ih nodup.2]

theorem lookup_ne_none_iff [DecidableEq κ] {d : List (κ × ν)} {k : κ} :
    d.lookup k ≠ none ↔ k ∈ d.map Prod.fst := by
  rw [ne_eq, List.lookup_eq_none_iff, List.mem_map]
  constructor
  · intro h
    by_contra hAbsent
    exact h fun e he => bne_iff_ne.mpr fun hKey => hAbsent ⟨e, he, hKey.symm⟩
  · rintro ⟨e, he, hKey⟩ hAll
    exact bne_iff_ne.mp (hAll e he) hKey.symm

theorem nodup_filter_keys {d : List (κ × ν)} (p : κ × ν → Bool) (nodup : (d.map Prod.fst).Nodup) :
    ((d.filter p).map Prod.fst).Nodup :=
  nodup.sublist (List.filter_sublist.map Prod.fst)

/-- The dictionaries hold the counters: both have the same keys, each once. -/
structure MemoryRateLimitBackend.Holds (b : MemoryRateLimitBackend T) (c : Counters String T) : Prop where
  nodup : (b.expiries.map Prod.fst).Nodup
  counts : ∀ k, b.counts.lookup k = (c k).map Prod.fst
  expiries : ∀ k, b.expiries.lookup k = (c k).map Prod.snd

/-- Redis holds the counters: each key once, and every key expires. -/
structure RedisStore.Holds (s : RedisStore T) (c : Counters String T) : Prop where
  positive : ∀ k e, c k = some e → 0 < e.1
  nodup : (s.map Prod.fst).Nodup
  entries : ∀ k, s.lookup k = (c k).map fun e => ⟨e.1, some e.2⟩

variable {c : Counters String T} {ttl now : T} {bucket : String}

omit [Add T] in
theorem MemoryRateLimitBackend.Holds.sweep {b : MemoryRateLimitBackend T} (h : b.Holds c) :
    (b.sweep now).Holds (live now c) := by
  have hExpired : ∀ k, (k ∈ (b.expiries.filter fun e => decide (e.2 ≤ now)).map Prod.fst) ↔
      ∃ e, c k = some e ∧ e.2 ≤ now := by
    intro k
    rw [List.mem_map]
    constructor
    · rintro ⟨⟨key, expiry⟩, hMem, rfl⟩
      obtain ⟨hMem, hOver⟩ := List.mem_filter.mp hMem
      have hFound := (Dict.lookup_eq_some_iff h.nodup).mpr hMem
      rw [h.expiries, Option.map_eq_some_iff] at hFound
      obtain ⟨e, he, rfl⟩ := hFound
      exact ⟨e, he, of_decide_eq_true hOver⟩
    · rintro ⟨e, he, hOver⟩
      have hFound : b.expiries.lookup k = some e.2 := by rw [h.expiries, he]; rfl
      exact ⟨(k, e.2), List.mem_filter.mpr
        ⟨(Dict.lookup_eq_some_iff h.nodup).mp hFound, decide_eq_true hOver⟩, rfl⟩
  have hKept : ∀ {α : Type} (f : Nat × T → α) k,
      (if decide (k ∉ (b.expiries.filter fun e => decide (e.2 ≤ now)).map Prod.fst)
        then (c k).map f else none) = (live now c k).map f := by
    intro α f k
    rw [live]
    cases hKey : c k with
    | none => simp
    | some e =>
      have hMem := hExpired k
      rw [hKey] at hMem
      by_cases hLive : now < e.2
      · have hNot : k ∉ (b.expiries.filter fun e => decide (e.2 ≤ now)).map Prod.fst := by
          rw [hMem]
          rintro ⟨e', hSame, hOver⟩
          cases hSame
          exact absurd hLive (not_lt.mpr hOver)
        rw [if_pos (decide_eq_true hNot), Option.filter_some, if_pos (decide_eq_true hLive)]
      · have hIn : k ∈ (b.expiries.filter fun e => decide (e.2 ≤ now)).map Prod.fst :=
          hMem.mpr ⟨e, rfl, not_lt.mp hLive⟩
        rw [if_neg (fun hNot => absurd hIn (of_decide_eq_true hNot)), Option.filter_some,
          if_neg (fun hTrue => hLive (of_decide_eq_true hTrue))]
        rfl
  constructor
  · exact nodup_filter_keys _ h.nodup
  · intro k
    rw [← hKept, ← h.counts]
    exact lookup_filter_key (fun key => decide (key ∉ _)) b.counts k
  · intro k
    rw [← hKept, ← h.expiries]
    exact lookup_filter_key (fun key => decide (key ∉ _)) b.expiries k

theorem MemoryRateLimitBackend.Holds.increment {b : MemoryRateLimitBackend T} (h : b.Holds c) :
    (b.increment bucket ttl now).1 = (advance ttl c ⟨bucket, now⟩).1 ∧
      (b.increment bucket ttl now).2.Holds (advance ttl c ⟨bucket, now⟩).2 := by
  have hSwept : (b.sweep now).Holds (live now c) := h.sweep
  have hIn : bucket ∈ (b.sweep now).counts.map Prod.fst ↔ live now c bucket ≠ none := by
    rw [← lookup_ne_none_iff, hSwept.counts, ne_eq, Option.map_eq_none_iff]
  have hRaised : ∀ e, live now c bucket = e →
      (b.increment bucket ttl now).1 = (raised ttl now e).1 ∧
        ∀ k, (b.increment bucket ttl now).2.expiries.lookup k =
          if k = bucket then some (raised ttl now e).2 else (live now c k).map Prod.snd := by
    intro e he
    unfold MemoryRateLimitBackend.increment
    dsimp only
    rw [hSwept.counts, he]
    cases e with
    | none =>
      refine ⟨rfl, fun k => ?_⟩
      rw [if_neg (fun hMem => hIn.mp hMem he), Dict.lookup_insert, hSwept.expiries]
      rfl
    | some e =>
      refine ⟨rfl, fun k => ?_⟩
      rw [if_pos (hIn.mpr (by rw [he]; exact Option.some_ne_none e)), hSwept.expiries]
      split_ifs with hKey
      · rw [hKey, he]
        rfl
      · rfl
  obtain ⟨hAnswer, hExpiries⟩ := hRaised _ rfl
  refine ⟨hAnswer, ?_, ?_, ?_⟩
  · unfold MemoryRateLimitBackend.increment
    dsimp only
    split_ifs
    · exact hSwept.nodup
    · exact Dict.nodup_insert hSwept.nodup
  · intro k
    have hCounts : (b.increment bucket ttl now).2.counts =
        Dict.insert bucket (b.increment bucket ttl now).1 (b.sweep now).counts := rfl
    rw [hCounts, Dict.lookup_insert, hAnswer, hSwept.counts]
    unfold advance
    dsimp only
    split_ifs with hKey
    · rw [hKey, Function.update_self]
      rfl
    · rw [Function.update_of_ne hKey]
  · intro k
    rw [hExpiries]
    unfold advance
    dsimp only
    split_ifs with hKey
    · rw [hKey, Function.update_self]
      rfl
    · rw [Function.update_of_ne hKey]

omit [Add T] in
theorem RedisStore.Holds.live {s : RedisStore T} (h : s.Holds c) :
    RedisStore.Holds (s.filter fun e => e.2.live now) (live now c) := by
  constructor
  · intro k e he
    rw [ExpiringCounters.live, Option.filter_eq_some_iff] at he
    exact h.positive k e he.1
  · exact nodup_filter_keys _ h.nodup
  · intro k
    rw [lookup_filter_value (fun e => e.live now) h.nodup, h.entries, ExpiringCounters.live]
    cases c k with
    | none => rfl
    | some e =>
      simp only [Option.map_some, Option.filter_some, RedisEntry.live]
      split_ifs <;> rfl

/-- The first hit sets the expiry, the others leave it. -/
theorem RedisStore.Holds.increment_eq {s : RedisStore T} (h : s.Holds c) (bucket : String) (ttl now : T) :
    ∃ first, s.increment bucket ttl now = ((raised ttl now (ExpiringCounters.live now c bucket)).1,
        Dict.insert bucket ⟨(raised ttl now (ExpiringCounters.live now c bucket)).1,
          some (raised ttl now (ExpiringCounters.live now c bucket)).2⟩ first) ∧
      (first.map Prod.fst).Nodup ∧
      ∀ k, k ≠ bucket → first.lookup k = (ExpiringCounters.live now c k).map fun e => ⟨e.1, some e.2⟩ := by
  have hLive : RedisStore.Holds (s.filter fun e => e.2.live now) (ExpiringCounters.live now c) := h.live
  have hFound := hLive.entries bucket
  unfold RedisStore.increment RedisStore.incr
  cases hEntry : ExpiringCounters.live now c bucket with
  | none =>
    rw [hEntry, Option.map_none] at hFound
    refine ⟨Dict.insert bucket ⟨1, none⟩ (s.filter fun e => e.2.live now), ?_,
      Dict.nodup_insert hLive.nodup, ?_⟩
    · rw [hFound]
      dsimp only
      rw [if_pos rfl, RedisStore.expire, Dict.lookup_insert, if_pos rfl]
      rfl
    · intro k hKey
      rw [Dict.lookup_insert, if_neg hKey, hLive.entries]
  | some e =>
    rw [hEntry, Option.map_some] at hFound
    have hMore : ¬ e.1 + 1 = 1 := by
      have hPos := hLive.positive bucket e hEntry
      omega
    refine ⟨s.filter fun e => e.2.live now, ?_, hLive.nodup, fun k _ => hLive.entries k⟩
    rw [hFound]
    dsimp only
    rw [if_neg hMore]
    rfl

theorem RedisStore.Holds.increment {s : RedisStore T} (h : s.Holds c) :
    (s.increment bucket ttl now).1 = (advance ttl c ⟨bucket, now⟩).1 ∧
      (s.increment bucket ttl now).2.Holds (advance ttl c ⟨bucket, now⟩).2 := by
  obtain ⟨first, hStored, hNodup, hOthers⟩ := h.increment_eq bucket ttl now
  have hPositive : 0 < (raised ttl now (ExpiringCounters.live now c bucket)).1 := by
    cases ExpiringCounters.live now c bucket <;> exact Nat.succ_pos _
  rw [hStored]
  refine ⟨rfl, ?_, Dict.nodup_insert hNodup, ?_⟩
  · intro k e he
    unfold advance at he
    dsimp only at he
    by_cases hKey : k = bucket
    · rw [hKey, Function.update_self, Option.some.injEq] at he
      rwa [← he]
    · rw [Function.update_of_ne hKey] at he
      exact h.live.positive k e he
  · intro k
    unfold advance
    dsimp only
    rw [Dict.lookup_insert]
    split_ifs with hKey
    · rw [hKey, Function.update_self]
      rfl
    · rw [Function.update_of_ne hKey, hOthers k hKey]

end Refinement

/-! ## The buckets -/

theorem notMem_repr {c : Char} (h : c.isDigit = false) (n : Nat) : c ∉ n.repr.toList := by
  rw [Nat.toList_repr]
  intro hMem
  rw [Nat.isDigit_of_mem_toDigits (by decide) (by decide) hMem] at h
  cases h

theorem repr_injective {m n : Nat} (h : m.repr.toList = n.repr.toList) : m = n := by
  rw [Nat.toList_repr, Nat.toList_repr] at h
  have hRead := congrArg (fun digits => Nat.ofDigitChars 10 digits 0) h
  simpa using hRead

theorem colon_notMem_integer (n : Int) : ':' ∉ (toString n).toList := by
  rw [Int.toString_eq_repr, Int.repr_eq_if]
  split_ifs
  · exact notMem_repr rfl _
  · rw [String.toList_append, List.mem_append, not_or]
    exact ⟨by simp, notMem_repr rfl _⟩

theorem integer_injective {m n : Int} (h : (toString m).toList = (toString n).toList) : m = n := by
  have hMinus : ∀ a b : Nat, a.repr.toList ≠ ("-" ++ b.repr).toList := by
    intro a b hSame
    have hMem : '-' ∈ ("-" ++ b.repr).toList := by simp
    exact notMem_repr rfl a (hSame ▸ hMem)
  rw [Int.toString_eq_repr, Int.toString_eq_repr, Int.repr_eq_if, Int.repr_eq_if] at h
  split_ifs at h with hm hn hn
  · have hNat := repr_injective h
    omega
  · exact absurd h (hMinus _ _)
  · exact absurd h.symm (hMinus _ _)
  · rw [String.toList_append, String.toList_append, List.append_cancel_left_eq] at h
    have hNat := repr_injective h
    omega

/-- Text after the last colon is told apart from the text before it. -/
theorem append_colon_inj {xs xs' ys ys' : List Char} (hys : ':' ∉ ys) (hys' : ':' ∉ ys')
    (h : xs ++ ':' :: ys = xs' ++ ':' :: ys') : xs = xs' ∧ ys = ys' := by
  rcases List.append_eq_append_iff.mp h with ⟨middle, rfl, hMiddle⟩ | ⟨middle, rfl, hMiddle⟩
  · cases middle with
    | nil => simpa using hMiddle
    | cons c rest =>
      rw [List.cons_append, List.cons.injEq] at hMiddle
      exact absurd (by rw [hMiddle.2]; simp) hys
  · cases middle with
    | nil => simpa using hMiddle.symm
    | cons c rest =>
      rw [List.cons_append, List.cons.injEq] at hMiddle
      exact absurd (by rw [hMiddle.2]; simp) hys'

namespace ApiRateLimiter

/-- Identities and windows have buckets of their own. -/
theorem bucket_inj (l : ApiRateLimiter) {a b : String} {v w : Int} :
    l.bucket a v = l.bucket b w ↔ a = b ∧ v = w := by
  constructor
  · intro h
    have hChars : ("rl:" ++ a ++ ":" ++ toString l.windowSeconds).toList ++ ':' :: (toString v).toList =
        ("rl:" ++ b ++ ":" ++ toString l.windowSeconds).toList ++ ':' :: (toString w).toList := by
      simpa [bucket] using congrArg String.toList h
    obtain ⟨hIdentity, hWindow⟩ :=
      append_colon_inj (colon_notMem_integer v) (colon_notMem_integer w) hChars
    refine ⟨?_, integer_injective hWindow⟩
    simpa [String.toList_inj] using hIdentity
  · rintro ⟨rfl, rfl⟩
    rfl

end ApiRateLimiter

end StockApi.RateLimit

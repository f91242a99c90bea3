import StockApi.Library.Checked
import StockApi.Library.FixedWindow
import Mathlib.Algebra.Order.Ring.Int

/-!
# The pacing guard

`AsyncPacingCostRateGuard.acquire` takes its lock, and either raises, admits the call, or waits and
tries again. Any number of calls wait at a time, for any vendors and costs; each pass through the
locked section is one step, and the waiting calls take theirs in any order. Clock readings are exact
numbers that never decrease.
-/

namespace StockApi.Pacing

open Checked FixedWindow

inductive GuardError where
  | valueError (message : String)
  | costBudgetExceeded (message : String)
  | admissionCheck
deriving DecidableEq

section Guard

variable {T : Type} [AddCommGroup T] [LinearOrder T]

/-- The arguments `AsyncPacingCostRateGuard.__init__` accepts. -/
structure PacingGuard (T : Type) [AddCommGroup T] [LinearOrder T] where
  maxCalls : Int
  window : T
  totalBudget : Option Int
  hasMaxCalls : 0 < maxCalls
  hasWindow : 0 < window
  hasBudget : ∀ b, totalBudget = some b → 0 ≤ b

/-- What the lock protects; a vendor that is not there yet has no window and counts of zero. -/
structure GuardState (T : Type) where
  windowStart : String → Option T
  windowCount : String → Int
  spent : String → Int

/-- One call of `acquire` that has passed the checks on its cost. -/
structure Call where
  vendor : String
  cost : Int
deriving DecidableEq

/-- The guard between two steps, with the calls that wait and the admissions so far. -/
structure System (T : Type) where
  guard : GuardState T
  readings : Nat
  waiting : List Call
  admitted : List (String × Entry T)

def System.initial : System T := ⟨⟨fun _ => none, fun _ => 0, fun _ => 0⟩, 0, [], []⟩

/-- The admissions of a vendor. -/
def System.of (s : System T) (vendor : String) : List (Entry T) :=
  (s.admitted.filter (·.1 = vendor)).map Prod.snd

inductive Action where
  | acquire (vendor : String) (cost : Int)
  | locked (call : Nat) (checkRaises : Bool)
  | cancelled (call : Nat)
deriving DecidableEq

inductive Outcome (T : Type) where
  | started
  | admitted
  | raised (error : GuardError)
  | sleeps (seconds : T)
  | cancelled

variable (g : PacingGuard T)

/-- `self.total_budget is not None and self._spent[vendor] + cost > self.total_budget`. -/
def exceedsBudget (s : GuardState T) (call : Call) : Bool :=
  g.totalBudget.any fun budget => budget < s.spent call.vendor + call.cost

def budgetError (vendor : String) : GuardError :=
  .costBudgetExceeded (vendor ++ ": exceeded total call budget of " ++
    (g.totalBudget.map toString).getD "None")

def GuardState.restart (s : GuardState T) (vendor : String) (now : T) : GuardState T :=
  { s with
    windowStart := Function.update s.windowStart vendor (some now)
    windowCount := Function.update s.windowCount vendor 0 }

/-- The window a reading of the clock falls into, restarted when the last one is over. -/
def restartWindow (s : GuardState T) (vendor : String) (now : T) : T × GuardState T :=
  match s.windowStart vendor with
  | none => (now, s.restart vendor now)
  | some start => if g.window ≤ now - start then (now, s.restart vendor now) else (start, s)

def GuardState.charge (s : GuardState T) (call : Call) : GuardState T :=
  { s with
    windowCount := Function.update s.windowCount call.vendor (s.windowCount call.vendor + call.cost)
    spent := Function.update s.spent call.vendor (s.spent call.vendor + call.cost) }

/-- One pass through the locked section. -/
def lockedPass (clock : Nat → T) (s : System T) (i : Nat) (call : Call) (checkRaises : Bool) :
    Outcome T × System T :=
  if exceedsBudget g s.guard call then
    (.raised (budgetError g call.vendor), { s with waiting := s.waiting.eraseIdx i })
  else
    let now := clock s.readings
    let start := (restartWindow g s.guard call.vendor now).1
    let guard := (restartWindow g s.guard call.vendor now).2
    if guard.windowCount call.vendor + call.cost ≤ g.maxCalls then
      if checkRaises then
        (.raised .admissionCheck, { s with
          guard := guard, readings := s.readings + 1, waiting := s.waiting.eraseIdx i })
      else
        (.admitted, {
          guard := guard.charge call
          readings := s.readings + 1
          waiting := s.waiting.eraseIdx i
          admitted := (call.vendor, ⟨now, start, call.cost⟩) :: s.admitted })
    else
      (.sleeps (max (start + g.window - now) 0),
        { s with guard := guard, readings := s.readings + 1 })

/-- One step of the calls in flight; a call that waits may be cancelled. -/
def step (clock : Nat → T) (s : System T) : Action → Option (Outcome T × System T)
  | .acquire vendor cost =>
    if cost < 1 then some (.raised (.valueError "cost must be >= 1"), s)
    else if g.maxCalls < cost then
      some (.raised (.valueError "cost must not exceed max_calls_per_window"), s)
    else some (.started, { s with waiting := s.waiting ++ [⟨vendor, cost⟩] })
  | .locked i checkRaises =>
    (s.waiting[i]?).map fun call => lockedPass g clock s i call checkRaises
  | .cancelled i =>
    if i < s.waiting.length then some (.cancelled, { s with waiting := s.waiting.eraseIdx i }) else none

/-- Any interleaving of calls, passes and cancellations. -/
def Reaches (clock : Nat → T) (s : System T) : Prop :=
  Relation.ReflTransGen (fun s t => ∃ action outcome, step g clock s action = some (outcome, t))
    System.initial s

end Guard

/-! ## The invariant -/

namespace GuardState

variable {T : Type} (s : GuardState T) (vendor : String) (now : T) (call : Call)

@[simp] theorem restart_windowStart : (s.restart vendor now).windowStart vendor = some now :=
  Function.update_self _ _ _

@[simp] theorem restart_windowCount : (s.restart vendor now).windowCount vendor = 0 :=
  Function.update_self _ _ _

@[simp] theorem restart_spent : (s.restart vendor now).spent = s.spent := rfl

@[simp] theorem charge_windowStart : (s.charge call).windowStart = s.windowStart := rfl

@[simp] theorem charge_windowCount :
    (s.charge call).windowCount call.vendor = s.windowCount call.vendor + call.cost :=
  Function.update_self _ _ _

@[simp] theorem charge_spent : (s.charge call).spent call.vendor = s.spent call.vendor + call.cost :=
  Function.update_self _ _ _

/-- Two states with the same entries for a vendor. -/
def Agree (vendor : String) (s t : GuardState T) : Prop :=
  t.windowStart vendor = s.windowStart vendor ∧ t.windowCount vendor = s.windowCount vendor ∧
    t.spent vendor = s.spent vendor

variable {vendor} {other : String}

theorem agree_restart (h : other ≠ vendor) : Agree other s (s.restart vendor now) :=
  ⟨Function.update_of_ne h _ _, Function.update_of_ne h _ _, rfl⟩

theorem agree_charge {call : Call} (h : other ≠ call.vendor) : Agree other s (s.charge call) :=
  ⟨rfl, Function.update_of_ne h _ _, Function.update_of_ne h _ _⟩

end GuardState

theorem of_cons {T : Type} (s : System T) (guard : GuardState T) (readings : Nat) (waiting : List Call)
    (vendor other : String) (e : Entry T) :
    (⟨guard, readings, waiting, (vendor, e) :: s.admitted⟩ : System T).of other =
      if vendor = other then e :: s.of other else s.of other := by
  unfold System.of
  rw [List.filter_cons]
  split_ifs with hBool hSame hSame
  · rfl
  · exact absurd (of_decide_eq_true hBool) hSame
  · exact absurd (decide_eq_true hSame) hBool
  · rfl

section Invariant

variable {T : Type} [AddCommGroup T] [LinearOrder T] (g : PacingGuard T) (clock : Nat → T)

/-- What the guard's three maps say of a vendor's admissions. -/
structure VendorPaced (guard : GuardState T) (now : T) (vendor : String)
    (entries : List (Entry T)) : Prop where
  spent : guard.spent vendor = total entries
  paced : Paced g.window g.maxCalls entries
  budget : ∀ b, g.totalBudget = some b → total entries ≤ b
  fresh : guard.windowStart vendor = none → entries = []
  count : ∀ w, guard.windowStart vendor = some w →
    guard.windowCount vendor = total (ofWindow w entries)
  latest : ∀ w, guard.windowStart vendor = some w →
    w ≤ now ∧ ∀ e ∈ entries, e.start = w ∨ e.start + g.window ≤ w

structure Inv (s : System T) : Prop where
  costs : ∀ call ∈ s.waiting, 1 ≤ call.cost ∧ call.cost ≤ g.maxCalls
  vendors : ∀ vendor, VendorPaced g s.guard (clock s.readings) vendor (s.of vendor)

theorem inv_initial : Inv g clock System.initial where
  costs := fun _ h => absurd h List.not_mem_nil
  vendors := fun vendor =>
    { spent := rfl
      paced := Paced.nil g.hasMaxCalls.le
      budget := g.hasBudget
      fresh := fun _ => rfl
      count := fun w h => by cases h
      latest := fun w h => by cases h }

variable {g clock} {guard : GuardState T} {vendor : String} {entries : List (Entry T)} {now : T}

theorem VendorPaced.later (paced : VendorPaced g guard now vendor entries) {later : T}
    (h : now ≤ later) : VendorPaced g guard later vendor entries :=
  { paced with latest := fun w hw => ⟨(paced.latest w hw).1.trans h, (paced.latest w hw).2⟩ }

/-- The maps of another vendor are left alone. -/
theorem VendorPaced.frame {other : GuardState T} (paced : VendorPaced g guard now vendor entries)
    (h : guard.Agree vendor other) : VendorPaced g other now vendor entries where
  spent := by rw [h.2.2, paced.spent]
  paced := paced.paced
  budget := paced.budget
  fresh := by rw [h.1]; exact paced.fresh
  count := by rw [h.1, h.2.1]; exact paced.count
  latest := by rw [h.1]; exact paced.latest

theorem restartWindow_other {other : String} (h : other ≠ vendor) :
    guard.Agree other (restartWindow g guard vendor now).2 := by
  unfold restartWindow
  cases guard.windowStart vendor with
  | none => exact guard.agree_restart now h
  | some start =>
    simp only
    split_ifs
    · exact guard.agree_restart now h
    · exact ⟨rfl, rfl, rfl⟩

theorem restartWindow_spent : (restartWindow g guard vendor now).2.spent = guard.spent := by
  unfold restartWindow
  cases guard.windowStart vendor with
  | none => rfl
  | some start =>
    simp only
    split_ifs
    · rfl
    · rfl

/-- A charge that fits the window and the budget. -/
theorem VendorPaced.charge {call : Call} {start : T}
    (paced : VendorPaced g guard now call.vendor entries) (hCost : 1 ≤ call.cost)
    (hStart : guard.windowStart call.vendor = some start)
    (hWithin : start ≤ now ∧ now < start + g.window)
    (hRoom : guard.windowCount call.vendor + call.cost ≤ g.maxCalls)
    (hBudget : ∀ b, g.totalBudget = some b → guard.spent call.vendor + call.cost ≤ b) :
    VendorPaced g (guard.charge call) now call.vendor (⟨now, start, call.cost⟩ :: entries) where
  spent := by
    rw [GuardState.charge_spent, paced.spent, total_cons, Int.add_comm]
  paced := by
    have hNonneg : 0 ≤ call.cost := by omega
    refine paced.paced.cons hNonneg hWithin (paced.latest start hStart).2 ?_
    rw [← paced.count start hStart]
    exact hRoom
  budget := by
    intro b hb
    have hFits := hBudget b hb
    rw [paced.spent, Int.add_comm] at hFits
    exact hFits
  fresh := fun h => by
    rw [GuardState.charge_windowStart, hStart] at h
    cases h
  count := by
    intro w hw
    rw [GuardState.charge_windowStart, hStart] at hw
    cases hw
    rw [GuardState.charge_windowCount, total_ofWindow_cons, if_pos rfl, paced.count start hStart,
      Int.add_comm]
  latest := by
    intro w hw
    rw [GuardState.charge_windowStart, hStart] at hw
    cases hw
    exact ⟨hWithin.1, List.forall_mem_cons.mpr ⟨.inl rfl, (paced.latest start hStart).2⟩⟩

/-! ## Steps -/

variable {s t : System T} {i : Nat} {call : Call}

theorem withinBudget_of_not_exceeds (h : exceedsBudget g guard call = false) :
    ∀ b, g.totalBudget = some b → guard.spent call.vendor + call.cost ≤ b := by
  intro b hb
  rw [exceedsBudget, hb, Option.any_some, decide_eq_false_iff_not] at h
  exact not_lt.mp h

theorem costs_eraseIdx (inv : Inv g clock s) (i : Nat) :
    ∀ call ∈ s.waiting.eraseIdx i, 1 ≤ call.cost ∧ call.cost ≤ g.maxCalls :=
  fun call hCall => inv.costs call (List.mem_of_mem_eraseIdx hCall)

/-- What one pass can do: raise before the clock is read, raise after, admit, or wait. -/
theorem lockedPass_cases (g : PacingGuard T) (clock : Nat → T) (s : System T) (i : Nat) (call : Call)
    (checkRaises : Bool) :
    (exceedsBudget g s.guard call = true ∧ lockedPass g clock s i call checkRaises =
      (.raised (budgetError g call.vendor), { s with waiting := s.waiting.eraseIdx i })) ∨
    (exceedsBudget g s.guard call = false ∧ lockedPass g clock s i call checkRaises =
      (.raised .admissionCheck, { s with
        guard := (restartWindow g s.guard call.vendor (clock s.readings)).2
        readings := s.readings + 1
        waiting := s.waiting.eraseIdx i })) ∨
    (exceedsBudget g s.guard call = false ∧
      (restartWindow g s.guard call.vendor (clock s.readings)).2.windowCount call.vendor + call.cost ≤
        g.maxCalls ∧ lockedPass g clock s i call checkRaises =
      (.admitted, ⟨(restartWindow g s.guard call.vendor (clock s.readings)).2.charge call,
        s.readings + 1, s.waiting.eraseIdx i,
        (call.vendor, ⟨clock s.readings, (restartWindow g s.guard call.vendor (clock s.readings)).1,
          call.cost⟩) :: s.admitted⟩)) ∨
    (exceedsBudget g s.guard call = false ∧ lockedPass g clock s i call checkRaises =
      (.sleeps (max ((restartWindow g s.guard call.vendor (clock s.readings)).1 + g.window -
          clock s.readings) 0),
        { s with
          guard := (restartWindow g s.guard call.vendor (clock s.readings)).2
          readings := s.readings + 1 })) := by
  unfold lockedPass
  cases hBudget : exceedsBudget g s.guard call with
  | true => exact .inl ⟨rfl, rfl⟩
  | false =>
    simp only [Bool.false_eq_true, if_false]
    split_ifs with hRoom hCheck
    · exact .inr (.inl ⟨trivial, rfl⟩)
    · exact .inr (.inr (.inl ⟨trivial, hRoom, rfl⟩))
    · exact .inr (.inr (.inr ⟨trivial, rfl⟩))

/-- A call that raises charges nothing and is not admitted. -/
theorem unchanged_of_raised {action : Action} {e : GuardError}
    (h : step g clock s action = some (.raised e, t)) :
    t.guard.spent = s.guard.spent ∧ t.admitted = s.admitted := by
  cases action with
  | acquire vendor cost =>
    rw [step] at h
    split_ifs at h
    · cases h
      exact ⟨rfl, rfl⟩
    · cases h
      exact ⟨rfl, rfl⟩
    · cases h
  | locked i checkRaises =>
    rw [step, Option.map_eq_some_iff] at h
    obtain ⟨call, _, h⟩ := h
    rcases lockedPass_cases g clock s i call checkRaises with
      ⟨_, hPass⟩ | ⟨_, hPass⟩ | ⟨_, _, hPass⟩ | ⟨_, hPass⟩
    · rw [hPass] at h
      cases h
      exact ⟨rfl, rfl⟩
    · rw [hPass] at h
      cases h
      exact ⟨restartWindow_spent, rfl⟩
    · rw [hPass] at h
      cases h
    · rw [hPass] at h
      cases h
  | cancelled i =>
    rw [step] at h
    split_ifs at h
    cases h

variable [IsOrderedAddMonoid T]

theorem ofWindow_eq_nil {w : T} (h : ∀ e ∈ entries, e.start + g.window ≤ w) :
    ofWindow w entries = [] := by
  apply List.filter_eq_nil_iff.mpr
  intro e he hSame
  have hAfter := h e he
  rw [of_decide_eq_true hSame] at hAfter
  exact absurd (lt_add_of_pos_right w g.hasWindow) (not_lt.mpr hAfter)

/-- A window may be restarted when all the others are over. -/
theorem VendorPaced.restart (paced : VendorPaced g guard now vendor entries)
    (hOver : ∀ e ∈ entries, e.start + g.window ≤ now) :
    VendorPaced g (guard.restart vendor now) now vendor entries where
  spent := paced.spent
  paced := paced.paced
  budget := paced.budget
  fresh := fun h => by
    rw [GuardState.restart_windowStart] at h
    cases h
  count := fun w h => by
    rw [GuardState.restart_windowStart] at h
    cases h
    rw [GuardState.restart_windowCount, ofWindow_eq_nil hOver, total_nil]
  latest := fun w h => by
    rw [GuardState.restart_windowStart] at h
    cases h
    exact ⟨le_rfl, fun e he => .inr (hOver e he)⟩

/-- The window of a reading is the vendor's window afterwards, and the reading lies in it. -/
theorem restartWindow_spec (paced : VendorPaced g guard now vendor entries) :
    VendorPaced g (restartWindow g guard vendor now).2 now vendor entries ∧
      (restartWindow g guard vendor now).2.windowStart vendor =
        some (restartWindow g guard vendor now).1 ∧
      (restartWindow g guard vendor now).1 ≤ now ∧
      now < (restartWindow g guard vendor now).1 + g.window := by
  have hOpen : now < now + g.window := lt_add_of_pos_right _ g.hasWindow
  unfold restartWindow
  cases hStart : guard.windowStart vendor with
  | none =>
    have hOver : ∀ e ∈ entries, e.start + g.window ≤ now := by
      rw [paced.fresh hStart]
      exact fun e he => absurd he List.not_mem_nil
    exact ⟨paced.restart hOver, guard.restart_windowStart vendor now, le_rfl, hOpen⟩
  | some start =>
    obtain ⟨hPast, hLatest⟩ := paced.latest start hStart
    simp only
    split_ifs with hElapsed
    · rw [le_sub_iff_add_le, add_comm] at hElapsed
      have hOver : ∀ e ∈ entries, e.start + g.window ≤ now := by
        intro e he
        rcases hLatest e he with hSame | hBefore
        · rw [hSame]
          exact hElapsed
        · exact hBefore.trans hPast
      exact ⟨paced.restart hOver, guard.restart_windowStart vendor now, le_rfl, hOpen⟩
    · rw [le_sub_iff_add_le, add_comm, not_le] at hElapsed
      exact ⟨paced, hStart, hPast, hElapsed⟩

theorem restartWindow_vendors (inv : Inv g clock s) (vendor other : String) :
    VendorPaced g (restartWindow g s.guard vendor (clock s.readings)).2 (clock s.readings) other
      (s.of other) := by
  rcases eq_or_ne other vendor with rfl | hOther
  · exact (restartWindow_spec (inv.vendors other)).1
  · exact (inv.vendors other).frame (restartWindow_other hOther)

/-- One pass keeps the invariant, whatever it does. -/
theorem inv_lockedPass (hClock : Monotone clock) (inv : Inv g clock s) (hCall : call ∈ s.waiting)
    (checkRaises : Bool) : Inv g clock (lockedPass g clock s i call checkRaises).2 := by
  have hTick : clock s.readings ≤ clock (s.readings + 1) := hClock (Nat.le_succ _)
  have hVendors := restartWindow_vendors inv call.vendor
  rcases lockedPass_cases g clock s i call checkRaises with
    ⟨_, hPass⟩ | ⟨_, hPass⟩ | ⟨hBudget, hRoom, hPass⟩ | ⟨_, hPass⟩
  · rw [hPass]
    exact ⟨costs_eraseIdx inv i, inv.vendors⟩
  · rw [hPass]
    exact ⟨costs_eraseIdx inv i, fun vendor => (hVendors vendor).later hTick⟩
  · rw [hPass]
    refine ⟨costs_eraseIdx inv i, fun vendor => ?_⟩
    rw [of_cons]
    split_ifs with hSame
    · subst hSame
      obtain ⟨_, hStart, hWithin⟩ := restartWindow_spec (inv.vendors call.vendor)
      have hFits := withinBudget_of_not_exceeds hBudget
      have hSpent : (restartWindow g s.guard call.vendor (clock s.readings)).2.spent = s.guard.spent :=
        restartWindow_spent
      rw [← hSpent] at hFits
      exact ((hVendors call.vendor).charge (inv.costs call hCall).1 hStart hWithin hRoom hFits).later
        hTick
    · exact ((hVendors vendor).frame (GuardState.agree_charge _ (Ne.symm hSame))).later hTick
  · rw [hPass]
    exact ⟨inv.costs, fun vendor => (hVendors vendor).later hTick⟩

theorem inv_step (hClock : Monotone clock) (inv : Inv g clock s) {action : Action}
    {outcome : Outcome T} (h : step g clock s action = some (outcome, t)) : Inv g clock t := by
  cases action with
  | acquire vendor cost =>
    rw [step] at h
    split_ifs at h with hLow hHigh
    · cases h
      exact inv
    · cases h
      exact inv
    · cases h
      refine ⟨fun call hCall => ?_, inv.vendors⟩
      rcases List.mem_append.mp hCall with hOld | hNew
      · exact inv.costs call hOld
      · rw [List.mem_singleton.mp hNew]
        exact ⟨not_lt.mp hLow, not_lt.mp hHigh⟩
  | locked i checkRaises =>
    rw [step, Option.map_eq_some_iff] at h
    obtain ⟨call, hCall, h⟩ := h
    have hPass := inv_lockedPass (i := i) hClock inv (List.mem_of_getElem? hCall) checkRaises
    rw [h] at hPass
    exact hPass
  | cancelled i =>
    rw [step] at h
    split_ifs at h
    cases h
    exact ⟨costs_eraseIdx inv i, inv.vendors⟩

theorem inv_of_reaches (hClock : Monotone clock) (run : Reaches g clock s) : Inv g clock s :=
  invariant_of_run (fun _ _ inv ⟨_, _, h⟩ => inv_step hClock inv h) run (inv_initial g clock)

/-- The guard never overspends: for every clock that does not go back and every interleaving, the
admissions of a vendor stay within the total budget, fall into windows that start at least a window's
length apart and admit no more than the capacity each, and an interval of that length holds no more
than two windows' worth. -/
theorem guard_never_overspends (hClock : Monotone clock) (run : Reaches g clock s) :
    (∀ vendor, s.guard.spent vendor = total (s.of vendor) ∧
      (∀ budget, g.totalBudget = some budget → total (s.of vendor) ≤ budget) ∧
      Paced g.window g.maxCalls (s.of vendor) ∧
      ∀ a, total (between a (a + g.window) (s.of vendor)) ≤ 2 * g.maxCalls) ∧
    ∀ action e t, step g clock s action = some (.raised e, t) →
      t.guard.spent = s.guard.spent ∧ t.admitted = s.admitted := by
  refine ⟨fun vendor => ?_, fun action e t h => unchanged_of_raised h⟩
  have h := (inv_of_reaches hClock run).vendors vendor
  exact ⟨h.spent, h.budget, h.paced, h.paced.total_between_le⟩

end Invariant

/-! ## Two calls a window -/

def sampleGuard : PacingGuard Int := ⟨2, 10, some 3, by decide, by decide, by decide⟩

def sampleClock (reading : Nat) : Int := reading

/-- A call of cost two is admitted at the first reading; its window starts there. -/
def sampleSystem : System Int :=
  ⟨((System.initial (T := Int)).guard.restart "polygon" 0).charge ⟨"polygon", 2⟩, 1, [],
    [("polygon", ⟨0, 0, 2⟩)]⟩

theorem guard_never_overspends_sample :
    total (sampleSystem.of "polygon") ≤ 3 ∧
      total (between 0 (0 + 10) (sampleSystem.of "polygon")) ≤ 2 * 2 := by
  have run : Reaches sampleGuard sampleClock sampleSystem := by
    refine .tail (.tail .refl ⟨.acquire "polygon" 2, .started, rfl⟩) ⟨.locked 0 false, .admitted, ?_⟩
    rfl
  have hClock : Monotone sampleClock := fun _ _ h => Int.ofNat_le.mpr h
  obtain ⟨_, hBudget, _, hInterval⟩ := (guard_never_overspends hClock run).1 "polygon"
  exact ⟨hBudget 3 rfl, hInterval 0⟩

end StockApi.Pacing

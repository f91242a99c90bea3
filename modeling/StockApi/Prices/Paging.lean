import StockApi.Prices.Reads

/-!
# Price paging loses and repeats nothing

A reader who asks again with the bound of the last answer until there is no more has read every row of the
range once. The rows of an adjusted page are those of the complete window.
-/

namespace StockApi.Prices

open Checked Relational KeysetPages
open Bars (Bar BarValues BarKey Archive Archived BarStep)

/-! ## Stored bars -/

/-- The rows of `bars`, under the constraints of the table. -/
structure StoredBars where
  rows : List Bar
  checked : ∀ b ∈ rows, b.Checks
  distinct : (rows.map fun b => b.key).Nodup

/-- What the triggers have stored. -/
theorem distinct_of_archived {a : Archive} (inv : Archived a) : (a.tables.bars.map fun b => b.key).Nodup := by
  rw [List.nodup_iff_count_le_one]
  intro k
  have hCurrent := congrArg List.length (inv.current k)
  rw [List.count, List.countP_map, List.countP_eq_length_filter]
  have hSame : a.tables.bars.filter ((fun other => other == k) ∘ fun b : Bar => b.key) =
      a.tables.bars.filter fun b => decide (b.key = k) := by
    apply List.filter_congr
    intro b _
    exact beq_eq_decide _ _
  rw [hSame, hCurrent]
  cases (a.lane k).getLast? with
  | none => exact Nat.zero_le 1
  | some b => exact Nat.le_refl 1

def StoredBars.ofRun {a : Archive} (run : Relation.ReflTransGen BarStep Archive.empty a) : StoredBars where
  rows := a.tables.bars
  checked b hb := by
    have inv := Bars.archived_of_run run
    have hLanes : b ∈ a.tables.lanes := List.mem_append_left _ (List.mem_append_left _ hb)
    exact inv.checked b (inv.mem_lanes_iff.mp hLanes)
  distinct := distinct_of_archived (Bars.archived_of_run run)

variable {stored : StoredBars} {symbol : PathSymbol} {filters : PriceFilters}

theorem length_normalized (symbol : PathSymbol) : symbol.normalized.length = symbol.text.length := by
  rw [PathSymbol.normalized, String.toUpper, String.length_map]

theorem validateSeries_eq (symbol : PathSymbol) {source : String} {multiplier : Int}
    (bounds : 1 ≤ source.length ∧ source.length ≤ 64) (positive : 1 ≤ multiplier) :
    validateSeries symbol.normalized source multiplier = .ok ⟨⟩ := by
  have hSymbol := symbol.bounds
  have hLength := length_normalized symbol
  rw [validateSeries, validateTextLength, refuseIf_of_not (by omega), ok_bind, refuseIf_of_not (by omega), ok_bind,
    validateTextLength, refuseIf_of_not (by omega), ok_bind, refuseIf_of_not (by omega), ok_bind,
    refuseIf_of_not (by omega)]

/-- The rows of the range, newest first. -/
def descending (stored : StoredBars) (symbol : PathSymbol) (filters : PriceFilters) : List Bar :=
  orderDesc (fun row => row.key.ts) (rowsInRange stored.rows symbol.normalized filters)

theorem mem_rowsInRange {row : Bar} : row ∈ rowsInRange stored.rows symbol.normalized filters ↔
    row ∈ stored.rows ∧ inSeries symbol.normalized filters row ∧ filters.range.Contains row.key.ts := by
  rw [rowsInRange, List.mem_filter, decide_eq_true_eq]

/-- A series has one row at a time. -/
theorem rowsInRange_distinct :
    ((rowsInRange stored.rows symbol.normalized filters).map fun row => row.key.ts).Nodup := by
  have hRows : (rowsInRange stored.rows symbol.normalized filters).Nodup :=
    (List.Nodup.of_map _ stored.distinct).filter _
  apply List.Nodup.map_on _ hRows
  intro a ha b hb hTime
  obtain ⟨hStoredA, ⟨hSymbolA, hSourceA, hTimespanA, hMultiplierA, hBasisA⟩, -⟩ := mem_rowsInRange.mp ha
  obtain ⟨hStoredB, ⟨hSymbolB, hSourceB, hTimespanB, hMultiplierB, hBasisB⟩, -⟩ := mem_rowsInRange.mp hb
  have hKey : a.key = b.key := by
    cases hA : a.key
    cases hB : b.key
    simp only [hA, hB] at *
    simp_all
  exact List.inj_on_of_nodup_map stored.distinct hStoredA hStoredB hKey

theorem descending_strict (stored : StoredBars) (symbol : PathSymbol) (filters : PriceFilters) :
    (descending stored symbol filters).Pairwise fun a b => b.key.ts < a.key.ts := by
  apply orderDesc_strict (List.Nodup.of_map _ rowsInRange_distinct)
  intro a ha b hb hTime
  exact List.inj_on_of_nodup_map rowsInRange_distinct ha hb hTime

def barOf (row : Bar) : PriceBar := ⟨row.key.ts, row.values, row.fetchedAt, row.asOf, row.recordedAt⟩

theorem validateValues_eq_ok {v : BarValues} : validateValues v = .ok ⟨⟩ ↔ v.Checks := by
  rw [validateValues, refuseIf_bind_eq_ok_iff, refuseIf_bind_eq_ok_iff, refuseIf_bind_eq_ok_iff, refuseIf_eq_ok_iff]
  simp only [not_not, not_lt, nonnegativeValues, Bars.BarValues.Checks, max_le_iff, le_min_iff, ge_iff_le, and_assoc]

theorem priceBar_eq {row : Bar} (h : row.Checks) : priceBar row = .ok (barOf row) := by
  obtain ⟨-, hValues, hFetched, hAsOf, hRecorded, -⟩ := h
  have hTimes : ¬ ¬ (row.key.ts ≤ row.fetchedAt ∧ row.fetchedAt ≤ row.asOf ∧ row.asOf ≤ row.recordedAt) :=
    not_not.mpr ⟨hFetched, hAsOf, hRecorded⟩
  rw [priceBar, validateValues_eq_ok.mpr hValues, ok_bind, refuseIf_of_not hTimes]
  rfl

/-! ## One page -/

/-- The filters of the next page: the same with the bound of the last answer. -/
def PriceFilters.before (filters : PriceFilters) (bound : Int) : Except String PriceFilters := do
  let range ← filters.range.before bound
  return { filters with range := range }

def nextPrices (filters : PriceFilters) (response : PricesResponse) : Option (Except String PriceFilters) :=
  if response.page.hasMore then response.page.nextEnd.map filters.before else none

theorem pricePage_eq {limit : Nat} (positive : 1 ≤ limit) {hasMore : Bool} {nextEnd : Option Int}
    (h : hasMore = nextEnd.isSome) : pricePage limit hasMore nextEnd = .ok ⟨limit, hasMore, nextEnd⟩ := by
  rw [pricePage, refuseIf_of_not (by omega), ok_bind, refuseIf_of_not (not_not.mpr h)]
  rfl

/-- The bound of the next page, when rows remain. -/
theorem isSome_last {α : Type} {limit : Nat} (positive : 1 ≤ limit) (rows : List α) (f : α → Int) :
    decide (limit < rows.length) =
      (if decide (limit < rows.length) = true then (rows.take limit).getLast?.map f else none).isSome := by
  by_cases hMore : limit < rows.length
  · obtain ⟨last, hLast⟩ := exists_last positive hMore
    rw [decide_eq_true hMore, if_pos rfl, hLast]
    rfl
  · rw [decide_eq_false hMore]
    rfl

theorem readPrices_eq (stored : StoredBars) (symbol : PathSymbol) (filters : PriceFilters) :
    ∃ response, readPrices stored.rows symbol filters = .ok response ∧
      response.bars = ((descending stored symbol filters).take filters.limit).reverse.map barOf ∧
      response.page.hasMore = decide (filters.limit < (descending stored symbol filters).length) ∧
      response.page.nextEnd = if filters.limit < (descending stored symbol filters).length then
        ((descending stored symbol filters).take filters.limit).getLast?.map (fun row => row.key.ts) else none := by
  have hBars : ((descending stored symbol filters).take filters.limit).reverse.mapM priceBar =
      .ok (((descending stored symbol filters).take filters.limit).reverse.map barOf) := by
    apply mapM_of_forall₂
    rw [List.forall₂_map_right_iff, List.forall₂_same]
    intro row hRow
    have hMem := orderDesc_perm.mem_iff.mp (List.mem_of_mem_take (List.mem_reverse.mp hRow))
    exact priceBar_eq (stored.checked row (mem_rowsInRange.mp hMem).1)
  rw [readPrices, buildPricesStatement, ← descending, take_probe]
  simp only [lt_probe_iff]
  rw [hBars, ok_bind, pricePage_eq filters.limitBound (isSome_last filters.limitBound _ _), ok_bind,
    validateSeries_eq symbol filters.sourceBounds filters.multiplierBound, ok_bind]
  refine ⟨_, rfl, rfl, rfl, ?_⟩
  simp only [decide_eq_true_eq]

/-- A bound inside the range narrows it. -/
theorem TimeRange.contains_before {range range' : TimeRange} {bound : Int} (inside : range.Contains bound)
    (h : range.before bound = .ok range') (ts : Int) : range'.Contains ts ↔ range.Contains ts ∧ ts < bound := by
  unfold TimeRange.before at h
  split_ifs at h with hStart
  cases h
  constructor
  · rintro ⟨hLow, hHigh⟩
    have hBefore : ts < bound := hHigh bound rfl
    exact ⟨⟨hLow, fun e he => hBefore.trans (inside.2 e he)⟩, hBefore⟩
  · rintro ⟨⟨hLow, -⟩, hBefore⟩
    refine ⟨hLow, fun e he => ?_⟩
    obtain rfl := Option.mem_some_iff.mp he
    exact hBefore

theorem exists_before {range : TimeRange} {bound older : Int} (inside : range.Contains older) (h : older < bound) :
    ∃ range', range.before bound = .ok range' := by
  unfold TimeRange.before
  rw [dif_pos fun s hs => (inside.1 s hs).trans_lt h]
  exact ⟨_, rfl⟩

/-- The rows of the next page are those that were not retained. -/
theorem descending_before {filters' : PriceFilters} {last : Bar}
    (hLast : ((descending stored symbol filters).take filters.limit).getLast? = some last)
    (h : filters.before last.key.ts = .ok filters') :
    descending stored symbol filters' = (descending stored symbol filters).drop filters.limit ∧
      filters'.limit = filters.limit := by
  rw [PriceFilters.before, bind_eq_ok_iff] at h
  obtain ⟨range', hRange, h⟩ := h
  cases h
  have hMem := orderDesc_perm.mem_iff.mp (List.mem_of_mem_take (List.mem_of_getLast? hLast))
  have hInside := (mem_rowsInRange.mp hMem).2.2
  have hUnique : ∀ a ∈ rowsInRange stored.rows symbol.normalized filters,
      ∀ b ∈ rowsInRange stored.rows symbol.normalized filters, a.key.ts = b.key.ts → a = b :=
    fun a ha b hb hTime => List.inj_on_of_nodup_map rowsInRange_distinct ha hb hTime
  have hNodup : (rowsInRange stored.rows symbol.normalized filters).Nodup := List.Nodup.of_map _ rowsInRange_distinct
  have hRows : rowsInRange stored.rows symbol.normalized { filters with range := range' } =
      (rowsInRange stored.rows symbol.normalized filters).filter fun row => row.key.ts < last.key.ts := by
    rw [rowsInRange, rowsInRange, List.filter_filter]
    apply List.filter_congr
    intro row _
    have hSeries : inSeries symbol.normalized { filters with range := range' } row ↔
        inSeries symbol.normalized filters row := Iff.rfl
    have hContains := TimeRange.contains_before hInside hRange row.key.ts
    simp only [hSeries, hContains, Bool.decide_and, Bool.and_comm, Bool.and_left_comm]
  refine ⟨?_, rfl⟩
  rw [descending, hRows, orderDesc_filter _ hNodup hUnique]
  exact filter_before_last (descending_strict stored symbol filters) hLast

/-- The pages of a stored series. -/
theorem stored_paging (stored : StoredBars) (symbol : PathSymbol) (filters : PriceFilters) :
    ∃ pages, (∀ others, Follows (readPrices stored.rows symbol) nextPrices filters others ↔ others = pages) ∧
      PagedOnce PricesResponse.bars (fun r => r.page.hasMore) PriceBar.timestamp filters.limit
        ((orderAsc (fun row => row.key.ts) (rowsInRange stored.rows symbol.normalized filters)).map barOf) pages := by
  have hStep : ∀ f : PriceFilters, f.limit = filters.limit → ∃ r, readPrices stored.rows symbol f = .ok r ∧
      r.bars = (((descending stored symbol f).map barOf).take filters.limit).reverse ∧
      r.page.hasMore = decide (filters.limit < ((descending stored symbol f).map barOf).length) ∧
      (r.page.hasMore = false → nextPrices f r = none) ∧
      (r.page.hasMore = true → ∃ f', nextPrices f r = some (.ok f') ∧ f'.limit = filters.limit ∧
        (descending stored symbol f').map barOf = ((descending stored symbol f).map barOf).drop filters.limit) := by
    intro f hLimit
    obtain ⟨r, hRead, hBars, hMore, hEnd⟩ := readPrices_eq stored symbol f
    rw [hLimit] at hBars hMore hEnd
    refine ⟨r, hRead, ?_, ?_, ?_, ?_⟩
    · rw [hBars, List.map_reverse, List.map_take]
    · rw [hMore, List.length_map]
    · intro hLast
      rw [nextPrices, hLast]
      rfl
    · intro hRest
      rw [hMore, decide_eq_true_eq] at hRest
      obtain ⟨last, older, hLast, hOlder, hBefore⟩ := exists_older (descending_strict stored symbol f)
        filters.limitBound hRest
      rw [if_pos hRest, hLast, Option.map_some] at hEnd
      have hInside := (mem_rowsInRange.mp (orderDesc_perm.mem_iff.mp hOlder)).2.2
      obtain ⟨range', hRange⟩ := exists_before hInside hBefore
      have hFilters : f.before last.key.ts = .ok { f with range := range' } := by
        rw [PriceFilters.before, hRange]
        rfl
      rw [← hLimit] at hLast
      obtain ⟨hRemaining, -⟩ := descending_before hLast hFilters
      refine ⟨{ f with range := range' }, ?_, hLimit, ?_⟩
      · rw [nextPrices, hMore, decide_eq_true hRest, if_pos rfl, hEnd, Option.map_some, hFilters]
      · rw [hRemaining, hLimit, List.map_drop]
  obtain ⟨pages, hFollows, hCut⟩ := exists_follows (fun f => (descending stored symbol f).map barOf)
    filters.limitBound hStep (rfl : filters.limit = filters.limit)
  have hStrict : ((descending stored symbol filters).map barOf).Pairwise fun a b => b.timestamp < a.timestamp := by
    rw [List.pairwise_map]
    exact descending_strict stored symbol filters
  have hPaged := hCut.pagedOnce filters.limitBound hStrict
  rw [← List.map_reverse, descending, reverse_orderDesc rowsInRange_distinct] at hPaged
  refine ⟨pages, fun others => ⟨fun hOthers => hOthers.unique hFollows, ?_⟩, hPaged⟩
  rintro rfl
  exact hFollows

end StockApi.Prices

import StockApi.Prices.Paging

/-!
# Adjusted price paging

Every page is cut from the complete window of the factor set, so that its rows and its lineage do not depend
on the bounds.
-/

namespace StockApi.Prices

open Checked Relational KeysetPages
open Adjustment

/-! ## The rows of a window -/

theorem isBinary64Hex_of_decode {bits label : String} {factor : ℚ}
    (h : decodePositiveFactor bits label = .ok factor) : IsBinary64Hex bits := by
  rw [decodePositiveFactor, orRefuse_bind_eq_ok_iff] at h
  obtain ⟨decoded, hDecoded, -⟩ := h
  rw [Float64.ofHex] at hDecoded
  split_ifs at hDecoded with hHex
  exact hHex

theorem multiply_nonneg {value factor result : ℚ} {label : String} (h : multiply value factor label = .ok result) :
    0 ≤ result := by
  rw [multiply, refuseIf_bind_eq_ok_iff] at h
  obtain ⟨hRange, h⟩ := h
  cases h
  rw [not_or, not_or, not_lt] at hRange
  exact hRange.2.1

theorem multiplyOptional_nonneg {value result : Option ℚ} {factor : ℚ} {label : String}
    (h : multiplyOptional value factor label = .ok result) : ∀ w ∈ result, 0 ≤ w := by
  cases value with
  | none =>
    cases h
    exact fun w hw => absurd hw (Option.not_mem_none w)
  | some v =>
    rw [multiplyOptional] at h
    cases hProduct : multiply v factor label with
    | error e =>
      rw [hProduct] at h
      cases h
    | ok product =>
      rw [hProduct] at h
      cases h
      intro w hw
      rw [Option.mem_some_iff] at hw
      exact hw ▸ multiply_nonneg hProduct

/-- What `_adjust_row` keeps of its inputs, and what it checks. -/
theorem adjustRow_facts {available : CivilTime.Instant} {item : (RawOhlcvVersion × AdjustmentFactor) × Nat}
    {row : AdjustedOhlcvRow} (h : adjustRow available item = .ok row) :
    (row.timestamp = item.1.1.timestamp ∧ row.rawVersionRecordedAt = item.1.1.versionRecordedAt ∧
      row.rawAvailableAt = item.1.1.availableAt ∧ row.availableAt = available ∧
      row.tradeCount = item.1.1.tradeCount) ∧
    (IsBinary64Hex row.priceFactorF64Be ∧ IsBinary64Hex row.volumeFactorF64Be) ∧
    ((∀ n ∈ row.tradeCount, 0 ≤ n) → (valuesOf row).Checks) := by
  simp only [adjustRow, bind_eq_ok_iff] at h
  obtain ⟨priceFactor, hPrice, volumeFactor, hVolume, opening, hOpening, high, hHigh, low, hLow, close, hClose,
    volume, hVolumes, vwap, hVwap, _, hOhlc, h⟩ := h
  cases h
  refine ⟨⟨rfl, rfl, rfl, rfl, rfl⟩, ⟨isBinary64Hex_of_decode hPrice, isBinary64Hex_of_decode hVolume⟩, ?_⟩
  intro hCount
  rw [validateOhlc, refuseIf_eq_ok_iff, not_or, not_or, not_lt, not_lt, not_lt, max_le_iff, le_min_iff] at hOhlc
  obtain ⟨hRange, ⟨hHighOpen, hHighClose⟩, hLowOpen, hLowClose⟩ := hOhlc
  exact ⟨⟨multiply_nonneg hOpening, multiply_nonneg hHigh, multiply_nonneg hLow, multiply_nonneg hClose,
    multiply_nonneg hVolumes⟩, multiplyOptional_nonneg hVwap, hCount, hRange, ⟨hHighOpen, hHighClose⟩,
    hLowOpen, hLowClose⟩

/-- What `_raw_row` checks of a row. -/
theorem validateRawRow_facts {artifact : AdjustmentFactorSet} {item : (RawOhlcvVersion × RawCloseVersion) × Nat}
    {row : RawOhlcvVersion} (h : validateRawRow artifact item = .ok row) :
    row.timestamp ≤ row.versionRecordedAt ∧ row.versionRecordedAt ≤ row.availableAt ∧
      ∀ n ∈ row.tradeCount, 0 ≤ n := by
  simp only [validateRawRow, bind_eq_ok_iff, refuseIf_eq_ok_iff] at h
  obtain ⟨_, -, _, -, _, -, _, hTimes, _, -, _, -, _, -, _, -, _, -, _, -, _, hCount, _, -, _, -, _, -, h⟩ := h
  cases h
  rw [not_not] at hTimes
  refine ⟨hTimes.1, hTimes.2.1, fun n hn => ?_⟩
  exact not_lt.mp fun hNegative => hCount ⟨n, hn, hNegative⟩

theorem le_latestAvailable {rows : List RawOhlcvVersion} {split dividend : CorporateActionCollectionReceipt}
    {row : RawOhlcvVersion} (h : row ∈ rows) : row.availableAt ≤ latestAvailable rows split dividend := by
  have hLatest : ∀ (rest : List RawOhlcvVersion) (start : CivilTime.Instant),
      start ≤ rest.foldl (fun latest row => max latest row.availableAt) start ∧
        ∀ r ∈ rest, r.availableAt ≤ rest.foldl (fun latest row => max latest row.availableAt) start := by
    intro rest
    induction rest with
    | nil => exact fun start => ⟨le_rfl, fun r hr => absurd hr List.not_mem_nil⟩
    | cons head tail ih =>
      intro start
      obtain ⟨hStart, hTail⟩ := ih (max start head.availableAt)
      rw [List.foldl_cons, List.forall_mem_cons]
      exact ⟨(le_max_left _ _).trans hStart, (le_max_right _ _).trans hStart, hTail⟩
  exact (hLatest rows _).2 row h

def adjustedBarOf (row : AdjustedOhlcvRow) : AdjustedPriceBar :=
  ⟨row.rawInputOrdinal, row.timestamp.micros, valuesOf row, row.rawVersionRecordedAt.micros,
    row.rawAvailableAt.micros, row.availableAt.micros, row.priceFactorF64Be, row.volumeFactorF64Be⟩

/-- Every row of a complete window is a valid bar, and the rows are in order. -/
theorem window_rows {runtime : Runtime} {policyHash : String} {factorSet : AdjustmentFactorSet}
    {rawRows : List RawOhlcvVersion} {split dividend : CorporateActionCollectionReceipt}
    {receipt : AdjustmentFactorSetReceipt} {window : AdjustedPriceWindow}
    (h : adjustOhlcvWindow runtime policyHash factorSet rawRows split dividend receipt 0 none = .ok window) :
    (window.rows.map AdjustedOhlcvRow.timestamp).Pairwise (· < ·) ∧
      (∀ row ∈ window.rows, adjustedPriceBar row = .ok (adjustedBarOf row)) ∧
      window.lineage.factorSetId = factorSet.factorSetId := by
  simp only [adjustOhlcvWindow, bind_eq_ok_iff] at h
  obtain ⟨artifact, hArtifact, _, -, _, -, split', -, dividend', -, raw, hRaw, receipt', hReceipt, rows, hRows, _,
    hOrder, bounds, hBounds, h⟩ := h
  cases h
  have hSame : artifact = factorSet := by
    simp only [validatedArtifact, bind_eq_ok_iff] at hArtifact
    obtain ⟨_, -, _, -, _, -, _, -, _, -, _, -, _, -, hArtifact⟩ := hArtifact
    cases hArtifact
    rfl
  have hWhole : (rows.take bounds.2).drop bounds.1 = rows := by
    simp only [sliceBounds, bind_eq_ok_iff] at hBounds
    obtain ⟨_, -, _, -, hBounds⟩ := hBounds
    cases hBounds
    exact List.take_length
  have hLatest : latestAvailable raw split' dividend' ≤ receipt'.availableAt := by
    simp only [factorSetReceipt, bind_eq_ok_iff, refuseIf_eq_ok_iff] at hReceipt
    obtain ⟨_, -, _, hTimes, hReceipt⟩ := hReceipt
    cases hReceipt
    rw [not_not] at hTimes
    exact hTimes.1.trans hTimes.2
  dsimp only
  rw [hWhole]
  refine ⟨?_, ?_, by rw [hSame]⟩
  · rw [refuseIf_eq_ok_iff, not_not] at hOrder
    exact hOrder.pairwise
  · intro row hRow
    obtain ⟨item, hItem, hAdjusted⟩ := exists_left_of_forall₂ (forall₂_of_mapM hRows) hRow
    obtain ⟨⟨hTime, hVersion, hRawAvailable, hAvailable, hCount⟩, hHex, hValues⟩ := adjustRow_facts hAdjusted
    have hZip : item.1 ∈ raw.zip artifact.factors := List.fst_mem_of_mem_zipIdx hItem
    have hRawRow : item.1.1 ∈ raw := (List.of_mem_zip hZip).1
    obtain ⟨source, -, hSource⟩ := exists_left_of_forall₂ (forall₂_of_mapM hRaw) hRawRow
    obtain ⟨hObserved, hReceipted, hNonneg⟩ := validateRawRow_facts hSource
    have hTimes : row.timestamp ≤ row.rawVersionRecordedAt ∧ row.rawVersionRecordedAt ≤ row.rawAvailableAt ∧
        row.rawAvailableAt ≤ row.availableAt := by
      rw [hTime, hVersion, hRawAvailable, hAvailable]
      exact ⟨hObserved, hReceipted, (le_latestAvailable hRawRow).trans hLatest⟩
    rw [adjustedPriceBar, refuseIf_of_not (not_not.mpr hHex), ok_bind,
      validateValues_eq_ok.mpr (hValues (hCount ▸ hNonneg)), ok_bind, refuseIf_of_not (not_not.mpr hTimes)]
    rfl

/-! ## Pages of a window -/

def AdjustedPriceFilters.before (filters : AdjustedPriceFilters) (bound : Int) :
    Except String AdjustedPriceFilters := do
  let range ← filters.range.before bound
  return { filters with range := range }

def nextAdjusted (filters : AdjustedPriceFilters) (response : AdjustedPricesResponse) :
    Option (Except AppError AdjustedPriceFilters) :=
  if response.page.hasMore then
    response.page.nextEnd.map fun bound => (filters.before bound).mapError AppError.validation
  else none

theorem nextAdjusted_factorSetId {filters filters' : AdjustedPriceFilters} {response : AdjustedPricesResponse}
    (h : nextAdjusted filters response = some (.ok filters')) : filters'.factorSetId = filters.factorSetId := by
  rw [nextAdjusted] at h
  split_ifs at h
  rw [Option.map_eq_some_iff] at h
  obtain ⟨bound, -, h⟩ := h
  rw [mapError_eq_ok_iff, AdjustedPriceFilters.before, bind_eq_ok_iff] at h
  obtain ⟨range', -, h⟩ := h
  cases h
  rfl

/-- The rows of the window in the range, newest first. -/
def selectedDesc (window : AdjustedPriceWindow) (range : TimeRange) : List AdjustedOhlcvRow :=
  (window.rows.filter fun row => decide (range.Contains row.timestamp.micros)).reverse

section Pages

variable {runtime : Runtime} {policyHash : String}
  {load : String → Except AppError LoadedAdjustedPriceEvidence} {symbol : PathSymbol}
  {evidence : LoadedAdjustedPriceEvidence} {window : AdjustedPriceWindow} {lineage : LineageSchema}

/-- The complete window an answer is cut from. -/
theorem fullWindow_facts {factorSetId : String}
    (h : fullWindow runtime policyHash load symbol.normalized factorSetId = .ok (evidence, window)) :
    (window.rows.map AdjustedOhlcvRow.timestamp).Pairwise (· < ·) ∧
      (∀ row ∈ window.rows, adjustedPriceBar row = .ok (adjustedBarOf row)) ∧
      window.lineage.factorSetId = evidence.factorSet.factorSetId := by
  simp only [fullWindow, bind_eq_ok_iff] at h
  obtain ⟨loaded, -, _, -, adjusted, hAdjusted, h⟩ := h
  cases h
  exact window_rows (mapError_eq_ok_iff.mp hAdjusted)

theorem lineageSchema_factorSetId (h : lineageSchema window = .ok lineage) :
    lineage.lineage.factorSetId = window.lineage.factorSetId := by
  simp only [lineageSchema, bind_eq_ok_iff] at h
  obtain ⟨first, -, last, -, hLineage⟩ := h
  have hChecked := mapError_eq_ok_iff.mp hLineage
  simp only [validateLineage, bind_eq_ok_iff] at hChecked
  obtain ⟨_, -, _, -, _, -, _, -, _, -, _, -, _, -, _, -, _, -, _, -, _, -, _, -, _, -, hChecked⟩ := hChecked
  cases hChecked
  rfl

theorem readAdjustedPrices_eq (filters : AdjustedPriceFilters)
    (hWindow : fullWindow runtime policyHash load symbol.normalized filters.factorSetId = .ok (evidence, window))
    (hLineage : lineageSchema window = .ok lineage) :
    ∃ response, readAdjustedPrices runtime policyHash load symbol filters = .ok response ∧
      response.bars = ((selectedDesc window filters.range).take filters.limit).reverse.map adjustedBarOf ∧
      response.page.hasMore = decide (filters.limit < (selectedDesc window filters.range).length) ∧
      response.page.nextEnd = (if filters.limit < (selectedDesc window filters.range).length then
        ((selectedDesc window filters.range).take filters.limit).getLast?.map fun row => (row.timestamp.micros : Int)
        else none) ∧
      response.lineage = lineage := by
  obtain ⟨-, hRows, hFactorSet⟩ := fullWindow_facts hWindow
  have hBars : ((selectedDesc window filters.range).take filters.limit).reverse.mapM adjustedPriceBar =
      .ok (((selectedDesc window filters.range).take filters.limit).reverse.map adjustedBarOf) := by
    apply mapM_of_forall₂
    rw [List.forall₂_map_right_iff, List.forall₂_same]
    intro row hRow
    have hMem := List.mem_reverse.mp (List.mem_of_mem_take (List.mem_reverse.mp hRow))
    exact hRows row (List.mem_of_mem_filter hMem)
  have hSame : ¬ evidence.factorSet.factorSetId ≠ lineage.lineage.factorSetId := by
    rw [not_not, lineageSchema_factorSetId hLineage, hFactorSet]
  rw [readAdjustedPrices, hWindow, ok_bind]
  dsimp only
  rw [← selectedDesc, take_probe, List.head?_reverse]
  simp only [lt_probe_iff]
  rw [hLineage, ok_bind, mapError_eq_ok_iff.mpr hBars, ok_bind,
    mapError_eq_ok_iff.mpr (pricePage_eq filters.limitBound (isSome_last filters.limitBound _ _)), ok_bind,
    mapError_eq_ok_iff.mpr (validateSeries_eq symbol (by decide) (by decide)), ok_bind, refuseIf_of_not hSame]
  refine ⟨_, rfl, rfl, rfl, ?_, rfl⟩
  simp only [decide_eq_true_eq]

/-- The rows of the next page are those that were not retained. -/
theorem selectedDesc_before {range range' : TimeRange} {limit : Nat} {last : AdjustedOhlcvRow}
    (ordered : (window.rows.map AdjustedOhlcvRow.timestamp).Pairwise (· < ·))
    (hLast : ((selectedDesc window range).take limit).getLast? = some last)
    (h : range.before last.timestamp.micros = .ok range') :
    selectedDesc window range' = (selectedDesc window range).drop limit := by
  have hMem := List.mem_reverse.mp (List.mem_of_mem_take (List.mem_of_getLast? hLast))
  have hInside := decide_eq_true_eq.mp (List.mem_filter.mp hMem).2
  have hDescending : (selectedDesc window range).Pairwise fun a b => b.timestamp < a.timestamp :=
    List.pairwise_reverse.mpr ((List.pairwise_map.mp ordered).filter _)
  rw [← filter_before_last hDescending hLast, selectedDesc, selectedDesc, List.filter_reverse, List.filter_filter]
  congr 1
  apply List.filter_congr
  intro row _
  have hContains := TimeRange.contains_before hInside h row.timestamp.micros
  rw [Nat.cast_lt, ← CivilTime.Instant.lt_iff] at hContains
  rw [← Bool.decide_and, decide_eq_decide, hContains, and_comm]

/-- The pages of an adjusted window. -/
theorem window_paging (filters : AdjustedPriceFilters)
    (hWindow : fullWindow runtime policyHash load symbol.normalized filters.factorSetId = .ok (evidence, window))
    (hLineage : lineageSchema window = .ok lineage) :
    ∃ pages, (∀ others, Follows (readAdjustedPrices runtime policyHash load symbol) nextAdjusted filters others ↔
        others = pages) ∧
      PagedOnce AdjustedPricesResponse.bars (fun r => r.page.hasMore) AdjustedPriceBar.timestamp filters.limit
        ((window.rows.filter fun row => decide (filters.range.Contains row.timestamp.micros)).map adjustedBarOf)
        pages ∧
      ∀ r ∈ pages, r.lineage = lineage := by
  obtain ⟨hOrdered, -, -⟩ := fullWindow_facts hWindow
  have hDescending : ∀ range, (selectedDesc window range).Pairwise fun a b => b.timestamp < a.timestamp :=
    fun range => List.pairwise_reverse.mpr ((List.pairwise_map.mp hOrdered).filter _)
  have hStep : ∀ f : AdjustedPriceFilters, f.factorSetId = filters.factorSetId ∧ f.limit = filters.limit →
      ∃ r, readAdjustedPrices runtime policyHash load symbol f = .ok r ∧
        r.bars = (((selectedDesc window f.range).map adjustedBarOf).take filters.limit).reverse ∧
        r.page.hasMore = decide (filters.limit < ((selectedDesc window f.range).map adjustedBarOf).length) ∧
        (r.page.hasMore = false → nextAdjusted f r = none) ∧
        (r.page.hasMore = true → ∃ f', nextAdjusted f r = some (.ok f') ∧
          (f'.factorSetId = filters.factorSetId ∧ f'.limit = filters.limit) ∧
          (selectedDesc window f'.range).map adjustedBarOf =
            ((selectedDesc window f.range).map adjustedBarOf).drop filters.limit) := by
    rintro f ⟨hId, hLimit⟩
    obtain ⟨r, hRead, hBars, hMore, hEnd, -⟩ := readAdjustedPrices_eq f (hId.symm ▸ hWindow) hLineage
    rw [hLimit] at hBars hMore hEnd
    refine ⟨r, hRead, ?_, ?_, ?_, ?_⟩
    · rw [hBars, List.map_reverse, List.map_take]
    · rw [hMore, List.length_map]
    · intro hLast
      rw [nextAdjusted, hLast]
      rfl
    · intro hRest
      rw [hMore, decide_eq_true_eq] at hRest
      obtain ⟨last, older, hLast, hOlder, hBefore⟩ := exists_older (hDescending f.range) filters.limitBound hRest
      rw [if_pos hRest, hLast, Option.map_some] at hEnd
      rw [CivilTime.Instant.lt_iff] at hBefore
      have hInside := decide_eq_true_eq.mp (List.mem_filter.mp (List.mem_reverse.mp hOlder)).2
      obtain ⟨range', hRange⟩ := exists_before hInside (Int.ofNat_lt.mpr hBefore)
      refine ⟨{ f with range := range' }, ?_, ⟨hId, hLimit⟩, ?_⟩
      · rw [nextAdjusted, hMore, decide_eq_true hRest, if_pos rfl, hEnd, Option.map_some, AdjustedPriceFilters.before,
          hRange]
        rfl
      · rw [selectedDesc_before hOrdered hLast hRange, List.map_drop]
  obtain ⟨pages, hFollows, hCut⟩ := exists_follows
    (fun f : AdjustedPriceFilters => (selectedDesc window f.range).map adjustedBarOf) filters.limitBound hStep
    ⟨(rfl : filters.factorSetId = filters.factorSetId), (rfl : filters.limit = filters.limit)⟩
  have hStrict : ((selectedDesc window filters.range).map adjustedBarOf).Pairwise
      fun a b => b.timestamp < a.timestamp := by
    rw [List.pairwise_map]
    exact (hDescending filters.range).imp fun hBefore => Int.ofNat_lt.mpr hBefore
  have hPaged := hCut.pagedOnce filters.limitBound hStrict
  rw [selectedDesc, ← List.map_reverse, List.reverse_reverse] at hPaged
  refine ⟨pages, fun others => ⟨fun hOthers => hOthers.unique hFollows, ?_⟩, hPaged, ?_⟩
  · rintro rfl
    exact hFollows
  · have hAnswer : ∀ f r, f.factorSetId = filters.factorSetId →
        readAdjustedPrices runtime policyHash load symbol f = .ok r → r.lineage = lineage := by
      intro f r hId hRead
      obtain ⟨answer, hAnswer, -, -, -, hSame⟩ := readAdjustedPrices_eq f (hId.symm ▸ hWindow) hLineage
      rw [hRead, Except.ok.injEq] at hAnswer
      rw [hAnswer, hSame]
    exact hFollows.forall_pages hAnswer (fun f r f' hId hNext => (nextAdjusted_factorSetId hNext).trans hId) rfl

end Pages

end StockApi.Prices

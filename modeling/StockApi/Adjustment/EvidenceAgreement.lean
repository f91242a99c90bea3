import StockApi.Adjustment.FactorHistory
import StockApi.Bars.LaterWrites

/-!
# The builder and the publisher select the same rows

The builder reads its raw inputs with one statement, the publisher checks them with others. Over every history of
the bars the publisher accepts a payload against the stored bars exactly when its rows are those of the builder.
-/

namespace StockApi.Adjustment

open Checked CivilTime Relational Text VersionChain
open Relation
open Bars (AdjustmentFactorBuildSpec Archive Archived Bar BarKey BarTables FactorRow LaterStep Receipt Visible
  orderedFactorRows factorVersion visibleRow)

/-! ## Receipts -/

section Receipts

variable {a : Archive} {k : BarKey} {cutoff : Int}

/-- A version has one receipt. -/
theorem receipt_unique (inv : Archived a) {r s : Receipt} (hr : r ∈ a.tables.receipts) (hs : s ∈ a.tables.receipts)
    (hKey : r.key = s.key) (hRecorded : r.versionRecordedAt = s.versionRecordedAt) : r = s := by
  by_contra hDifferent
  have hSymm : Std.Symm fun r s : Receipt => ¬ (r.key = s.key ∧ r.versionRecordedAt = s.versionRecordedAt) :=
    ⟨fun _ _ h hEq => h ⟨hEq.1.symm, hEq.2.symm⟩⟩
  exact inv.once.forall hr hs hDifferent ⟨hKey, hRecorded⟩

/-- The version of a receipt. -/
theorem exists_version (inv : Archived a) {r : Receipt} (hr : r ∈ a.tables.receipts) (hKey : r.key = k)
    (hCutoff : r.availableAt ≤ cutoff) :
    ∃ v ∈ a.lane k, v.recordedAt = r.versionRecordedAt ∧ a.tables.receiptBy cutoff v = some r := by
  obtain ⟨-, v, hWritten, hVersionKey, hRecorded⟩ := inv.receipted r hr
  refine ⟨v, Bars.Archive.mem_lane_iff.mpr ⟨hWritten, hVersionKey.trans hKey⟩, hRecorded, ?_⟩
  exact inv.receiptBy_eq_some_iff.mpr ⟨hr, hVersionKey.symm, hRecorded.symm, hCutoff⟩

/-- The latest receipt of a key is that of its newest visible version. -/
theorem latest_receipt_iff (inv : Archived a) {r : Receipt} :
    latestBy receiptRank (a.tables.receipts.filter fun r => decide (r.key = k ∧ r.availableAt ≤ cutoff)) = some r ↔
      ∃ v, a.newestVisible k cutoff = some v ∧ a.tables.receiptBy cutoff v = some r := by
  have hMem : ∀ s, s ∈ (a.tables.receipts.filter fun r => decide (r.key = k ∧ r.availableAt ≤ cutoff)) ↔
      s ∈ a.tables.receipts ∧ s.key = k ∧ s.availableAt ≤ cutoff := by
    intro s
    rw [List.mem_filter, decide_eq_true_eq]
  rw [latestBy_eq_some_iff]
  · constructor
    · rintro ⟨hr, hLast⟩
      obtain ⟨hReceipt, hKey, hCutoff⟩ := (hMem r).mp hr
      obtain ⟨v, hLane, hRecorded, hFound⟩ := exists_version inv hReceipt hKey hCutoff
      refine ⟨v, (newest_eq_some_iff (inv.chain k)).mpr ⟨⟨hLane, by rw [hFound]; rfl⟩, ?_⟩, hFound⟩
      intro other hOther hVisible
      obtain ⟨s, hs⟩ := Option.isSome_iff_exists.mp hVisible
      obtain ⟨hsMem, hsKey, hsRecorded, hsCutoff⟩ := Bars.BarTables.receiptBy_eq_some hs
      have hOtherKey := (Bars.Archive.mem_lane_iff.mp hOther).2
      have hRank := hLast s ((hMem s).mpr ⟨hsMem, hsKey.trans hOtherKey, hsCutoff⟩)
      rw [receiptRank, receiptRank, Prod.Lex.toLex_le_toLex] at hRank
      rw [hRecorded, ← hsRecorded]
      rcases hRank with hLess | ⟨hSame, -⟩
      · exact hLess.le
      · exact hSame.le
    · rintro ⟨v, hNewest, hFound⟩
      obtain ⟨⟨hLane, -⟩, hLast⟩ := (newest_eq_some_iff (inv.chain k)).mp hNewest
      obtain ⟨hReceipt, hKey, hRecorded, hCutoff⟩ := Bars.BarTables.receiptBy_eq_some hFound
      have hVersionKey := (Bars.Archive.mem_lane_iff.mp hLane).2
      refine ⟨(hMem r).mpr ⟨hReceipt, hKey.trans hVersionKey, hCutoff⟩, fun s hs => ?_⟩
      obtain ⟨hsReceipt, hsKey, hsCutoff⟩ := (hMem s).mp hs
      obtain ⟨w, hwLane, hwRecorded, hwFound⟩ := exists_version inv hsReceipt hsKey hsCutoff
      have hLe := hLast w hwLane (by rw [hwFound]; rfl)
      rw [hwRecorded, ← hRecorded] at hLe
      rcases hLe.lt_or_eq with hLess | hSame
      · exact (Prod.Lex.toLex_lt_toLex.mpr (Or.inl hLess)).le
      · rw [receipt_unique inv hsReceipt hReceipt (hsKey.trans (hKey.trans hVersionKey).symm) hSame]
  · intro x hx y hy hRank
    obtain ⟨hxMem, hxKey, -⟩ := (hMem x).mp hx
    obtain ⟨hyMem, hyKey, -⟩ := (hMem y).mp hy
    exact receipt_unique inv hxMem hyMem (hxKey.trans hyKey.symm) (congrArg (fun rank => (ofLex rank).1) hRank)

/-- The version of a receipt is counted once. -/
theorem greatestCount_eq_one (inv : Archived a) (symbol : String) {receipts : List Receipt} {r : Receipt}
    (nodup : receipts.Nodup)
    (stored : ∀ s ∈ receipts, s ∈ a.tables.receipts ∧ s.key = rawBarKey symbol s.key.ts) (hr : r ∈ receipts) :
    greatestCount receipts r = 1 := by
  have hOnly : (receipts.filter fun other => decide (other.key.ts = r.key.ts ∧
      other.versionRecordedAt = r.versionRecordedAt)) = (some r).toList := by
    refine eq_toList_of_mem_iff (nodup.filter _) fun other => ?_
    rw [List.mem_filter, decide_eq_true_eq, Option.some.injEq]
    constructor
    · rintro ⟨hOther, hTs, hRecorded⟩
      obtain ⟨hOtherMem, hOtherKey⟩ := stored other hOther
      obtain ⟨hMem, hKey⟩ := stored r hr
      have hSameKey : other.key = r.key := by rw [hOtherKey, hKey, hTs]
      exact (receipt_unique inv hOtherMem hMem hSameKey hRecorded).symm
    · rintro rfl
      exact ⟨hr, rfl, rfl⟩
  rw [greatestCount, List.countP_eq_length_filter, hOnly, Option.toList_some, List.length_singleton]

theorem receipts_nodup (inv : Archived a) : a.tables.receipts.Nodup := by
  refine inv.once.imp ?_
  rintro r s hNot rfl
  exact hNot ⟨rfl, rfl⟩

end Receipts

/-! ## One row -/

section Row

variable {runtime : Runtime} {a : Archive}

/-- The versions of one recorded time with the receipt of that version. -/
theorem exactVersions_eq (inv : Archived a) {k : BarKey} {v : Bar} {r : Receipt} {cutoff : Int} (lane : v ∈ a.lane k)
    (found : a.tables.receiptBy cutoff v = some r) :
    exactVersions a.tables k r.versionRecordedAt r.availableAt = [v.values.close] := by
  obtain ⟨hWritten, hKey⟩ := Bars.Archive.mem_lane_iff.mp lane
  obtain ⟨hReceipt, hReceiptKey, hRecorded, -⟩ := Bars.BarTables.receiptBy_eq_some found
  have hVersions : ((a.tables.lanes.filter fun w => decide (w.key = k ∧ w.recordedAt = r.versionRecordedAt)).map
      fun w => w.values.close).dedup = (some v.values.close).toList := by
    refine eq_toList_of_mem_iff (List.nodup_dedup _) fun close => ?_
    rw [List.mem_dedup, List.mem_map, Option.some.injEq]
    constructor
    · rintro ⟨w, hw, rfl⟩
      rw [List.mem_filter, decide_eq_true_eq, inv.mem_lanes_iff] at hw
      obtain ⟨hwWritten, hwKey, hwRecorded⟩ := hw
      have hSame := (inv.chain k).unique w (Bars.Archive.mem_lane_iff.mpr ⟨hwWritten, hwKey⟩) v lane
        (hwRecorded.trans hRecorded)
      rw [hSame]
    · rintro rfl
      refine ⟨v, ?_, rfl⟩
      rw [List.mem_filter, decide_eq_true_eq, inv.mem_lanes_iff]
      exact ⟨hWritten, hKey, hRecorded.symm⟩
  have hReceipts : (a.tables.receipts.filter fun s => decide (s.key = k ∧
      s.versionRecordedAt = r.versionRecordedAt ∧ s.availableAt = r.availableAt)) = (some r).toList := by
    refine eq_toList_of_mem_iff ((receipts_nodup inv).filter _) fun s => ?_
    rw [List.mem_filter, decide_eq_true_eq, Option.some.injEq]
    constructor
    · rintro ⟨hs, hsKey, hsRecorded, -⟩
      exact receipt_unique inv hReceipt hs ((hReceiptKey.trans hKey).trans hsKey.symm) hsRecorded.symm
    · rintro rfl
      exact ⟨hReceipt, hReceiptKey.trans hKey, rfl, rfl⟩
  rw [exactVersions, hVersions, hReceipts]
  rfl

/-- What a row tells of the stored bars. -/
structure RawSelection where
  ts : Int
  versionRecordedAt : Int
  availableAt : Int
  closeDecimal : String
  closeF64Be : String
deriving DecidableEq

def PayloadRawInput.selection (raw : PayloadRawInput) : RawSelection :=
  ⟨raw.observedAt.micros, raw.versionRecordedAt.micros, raw.availableAt.micros, raw.closeDecimal, raw.closeF64Be⟩

/-- A row of the builder's statement, its close spelled as a float is. -/
def factorSelection (runtime : Runtime) (row : FactorRow) : RawSelection :=
  ⟨row.chosen.version.key.ts, row.chosen.version.recordedAt, row.chosen.availableAt,
    decimalText (runtime.shortestDecimal row.chosen.version.close), floatBits row.chosen.version.close⟩

/-- The builder's selection for the window of a payload. -/
def payloadSpec (payload : FactorPayload) (start stop : Date) : AdjustmentFactorBuildSpec :=
  ⟨payload.symbol, start, stop, payload.cutoff⟩

variable {payload : FactorPayload} {start stop : Date}

theorem covers_rawBarKey_iff {ts : Int} : (payloadSpec payload start stop).Covers (rawBarKey payload.symbol ts) ↔
    (start.days : Int) ≤ ts / dayMicros ∧ ts / dayMicros ≤ stop.days := by
  have hDays : (Bars.startOfDay start ≤ ts ∧ ts < Bars.startOfDay stop + 86400000000) ↔
      (start.days : Int) ≤ ts / dayMicros ∧ ts / dayMicros ≤ stop.days := by
    unfold Bars.startOfDay dayMicros
    omega
  rw [← hDays]
  exact ⟨fun h => h.2.2.2.2.2, fun h => ⟨rfl, rfl, rfl, rfl, rfl, h⟩⟩

/-- The builder's row of a visible version. -/
theorem mem_rows_iff (inv : Archived a) {row : FactorRow} :
    row ∈ orderedFactorRows (payloadSpec payload start stop) a.tables ↔
      (payloadSpec payload start stop).Covers row.chosen.version.key ∧
      ∃ v r, a.newestVisible row.chosen.version.key payload.cutoff.micros = some v ∧
        a.tables.receiptBy payload.cutoff.micros v = some r ∧ row = ⟨⟨factorVersion v, r.availableAt⟩, 1⟩ := by
  rw [inv.mem_orderedFactorRows_iff]
  constructor
  · rintro ⟨hCount, hCovers, hRow⟩
    obtain ⟨v, hNewest, hVisible⟩ := Option.bind_eq_some_iff.mp hRow
    obtain ⟨r, hFound, hChosen⟩ := Option.map_eq_some_iff.mp hVisible
    refine ⟨hCovers, v, r, hNewest, hFound, ?_⟩
    rw [hChosen, ← hCount]
  · rintro ⟨hCovers, v, r, hNewest, hFound, hEq⟩
    refine ⟨by rw [hEq], hCovers, Option.bind_eq_some_iff.mpr ⟨v, hNewest, ?_⟩⟩
    exact Option.map_eq_some_iff.mpr ⟨r, hFound, by rw [hEq]⟩

/-- The stored checks of a raw row look for a row of the builder. -/
theorem validateStoredRow_iff (inv : Archived a) {raw : PayloadRawInput}
    (covers : (payloadSpec payload start stop).Covers (rawBarKey payload.symbol raw.observedAt.micros)) :
    validateStoredRow runtime a.tables payload raw = .ok PUnit.unit ↔
      ∃ row ∈ orderedFactorRows (payloadSpec payload start stop) a.tables,
        factorSelection runtime row = raw.selection := by
  have hVisible : ((visibleReceipts a.tables payload).filter fun r =>
      decide (r.key = rawBarKey payload.symbol raw.observedAt.micros)) = a.tables.receipts.filter fun r =>
        decide (r.key = rawBarKey payload.symbol raw.observedAt.micros ∧
          r.availableAt ≤ (payload.cutoff.micros : Int)) := by
    rw [visibleReceipts, List.filter_filter]
    apply List.filter_congr
    intro r _
    rw [← Bool.decide_and, decide_eq_decide]
    constructor
    · rintro ⟨hKey, -, hBy⟩
      exact ⟨hKey, hBy⟩
    · rintro ⟨hKey, hBy⟩
      exact ⟨hKey, by rw [hKey]; rfl, hBy⟩
  simp only [validateStoredRow, refuseIf_bind_eq_ok_iff, refuseIf_eq_ok_iff, not_not, hVisible]
  constructor
  · rintro ⟨⟨-, hCloses⟩, r, hLatest, -, hRecorded, hAvailable⟩
    obtain ⟨v, hNewest, hFound⟩ := (latest_receipt_iff inv).mp hLatest
    obtain ⟨⟨hLane, -⟩, -⟩ := (newest_eq_some_iff (inv.chain _)).mp hNewest
    have hKey := (Bars.Archive.mem_lane_iff.mp hLane).2
    rw [← hRecorded, ← hAvailable, exactVersions_eq inv hLane hFound] at hCloses
    obtain ⟨hBits, hText⟩ := hCloses _ (List.mem_singleton_self _)
    have hCovers : (payloadSpec payload start stop).Covers v.key := by
      rw [hKey]
      exact covers
    have hNewest' : a.newestVisible v.key payload.cutoff.micros = some v := by
      rw [hKey]
      exact hNewest
    refine ⟨⟨⟨factorVersion v, r.availableAt⟩, 1⟩, (mem_rows_iff inv).mpr ⟨hCovers, v, r, hNewest', hFound, rfl⟩, ?_⟩
    · have hTs : v.key.ts = raw.observedAt.micros := congrArg BarKey.ts hKey
      have hStored := (Bars.BarTables.receiptBy_eq_some hFound).2.2.1
      rw [factorSelection, PayloadRawInput.selection, RawSelection.mk.injEq]
      exact ⟨hTs, hStored.symm.trans hRecorded, hAvailable, hText, hBits⟩
  · rintro ⟨row, hRow, hSelection⟩
    obtain ⟨hCovers, v, r, hNewest, hFound, rfl⟩ := (mem_rows_iff inv).mp hRow
    rw [factorSelection, PayloadRawInput.selection, RawSelection.mk.injEq] at hSelection
    obtain ⟨hTs, hRecorded, hAvailable, hText, hBits⟩ := hSelection
    have hKey : v.key = rawBarKey payload.symbol raw.observedAt.micros := hCovers.eq_of_ts covers hTs
    have hNewest' : a.newestVisible (rawBarKey payload.symbol raw.observedAt.micros) payload.cutoff.micros = some v :=
      hKey ▸ hNewest
    obtain ⟨⟨hLane, -⟩, -⟩ := (newest_eq_some_iff (inv.chain _)).mp hNewest'
    obtain ⟨hReceipt, hReceiptKey, hReceiptRecorded, hCutoff⟩ := Bars.BarTables.receiptBy_eq_some hFound
    have hSameRecorded : r.versionRecordedAt = raw.versionRecordedAt.micros := hReceiptRecorded.trans hRecorded
    refine ⟨?_, r, (latest_receipt_iff inv).mpr ⟨v, hNewest', hFound⟩, ?_, hSameRecorded, hAvailable⟩
    · rw [← hSameRecorded, ← hAvailable, exactVersions_eq inv hLane hFound]
      refine ⟨rfl, fun stored hStored => ?_⟩
      rw [List.mem_singleton] at hStored
      subst hStored
      exact ⟨hBits, hText⟩
    · refine greatestCount_eq_one inv payload.symbol ((receipts_nodup inv).filter _) ?_ ?_
      · intro s hs
        rw [List.mem_filter, decide_eq_true_eq] at hs
        refine ⟨hs.1, ?_⟩
        rw [hs.2.1]
        rfl
      · rw [List.mem_filter, decide_eq_true_eq]
        exact ⟨hReceipt, hReceiptKey.trans hKey, hCutoff⟩

/-- The receipts the publisher counts are those of the builder's rows. -/
theorem mem_newestVisible_iff (inv : Archived a) {r : Receipt} :
    r ∈ newestVisible a.tables payload start stop ↔ (payloadSpec payload start stop).Covers r.key ∧
      ∃ v, a.newestVisible r.key payload.cutoff.micros = some v ∧
        a.tables.receiptBy payload.cutoff.micros v = some r := by
  have hPart : (payloadSpec payload start stop).Covers r.key →
      (((visibleReceipts a.tables payload).filter fun r => decide ((start.days : Int) ≤ r.key.ts / dayMicros ∧
        (r.key.ts / dayMicros : Int) ≤ stop.days)).filter fun other => decide (other.key.ts = r.key.ts)) =
      a.tables.receipts.filter fun other => decide (other.key = r.key ∧
        other.availableAt ≤ (payload.cutoff.micros : Int)) := by
    intro hCovers
    have hKey : r.key = rawBarKey payload.symbol r.key.ts := by
      obtain ⟨hSymbol, hTimespan, hMultiplier, hSource, hBasis, -⟩ := hCovers
      exact BarKey.mk.injEq .. ▸ ⟨hSymbol, hTimespan, hMultiplier, rfl, hSource, hBasis⟩
    have hDays := hCovers
    rw [hKey, covers_rawBarKey_iff] at hDays
    rw [visibleReceipts, List.filter_filter, List.filter_filter]
    apply List.filter_congr
    intro other _
    rw [← Bool.decide_and, ← Bool.decide_and, decide_eq_decide]
    constructor
    · rintro ⟨⟨hTs, -⟩, hOther, hBy⟩
      exact ⟨by rw [hOther, hTs, ← hKey], hBy⟩
    · rintro ⟨hSame, hBy⟩
      rw [hSame]
      exact ⟨⟨rfl, hDays⟩, hKey, hBy⟩
  rw [newestVisible, mem_rowNumberOne_iff]
  constructor
  · intro h
    have hMem := (List.mem_filter.mp (mem_of_latestBy h)).1
    rw [List.mem_filter, decide_eq_true_eq, visibleReceipts, List.mem_filter, decide_eq_true_eq] at hMem
    obtain ⟨⟨-, hKey, -⟩, hDays⟩ := hMem
    have hCovers : (payloadSpec payload start stop).Covers r.key := by
      rw [hKey, covers_rawBarKey_iff]
      exact hDays
    rw [hPart hCovers] at h
    exact ⟨hCovers, (latest_receipt_iff inv).mp h⟩
  · rintro ⟨hCovers, h⟩
    rw [hPart hCovers]
    exact (latest_receipt_iff inv).mpr h

end Row

/-! ## The order of the checked rows -/

section Ordered

variable {payload : FactorPayload} {start stop : Date}

theorem validatePayloadRow_eq_ok {cutoff : Instant}
    {item : ((PayloadRawInput × PayloadFactor) × Option PayloadRawInput) × Nat}
    (h : validatePayloadRow cutoff item = .ok PUnit.unit) :
    item.1.1.1.observedAt.date = item.1.1.1.observationDate ∧ ∀ previous ∈ item.1.2,
      previous.observationDate < item.1.1.1.observationDate ∧ previous.observedAt < item.1.1.1.observedAt := by
  simp only [validatePayloadRow, bind_eq_ok_iff, refuseIf_eq_ok_iff] at h
  obtain ⟨_, -, _, hTimes, _, hPrevious, -⟩ := h
  rw [not_or, not_not] at hTimes
  refine ⟨hTimes.1, fun previous hMem => ?_⟩
  rw [← not_le, ← not_le, ← not_or]
  exact fun hOut => hPrevious ⟨previous, hMem, hOut⟩

/-- The row at an ordinal comes with the row before it. -/
theorem exists_payloadRow (lengths : payload.factors.length = payload.rawInputs.length) {i : Nat}
    (h : i < payload.rawInputs.length) :
    ∃ item ∈ payloadRows payload, item.1.1.1 = payload.rawInputs[i] ∧
      (none :: payload.rawInputs.map some)[i]? = some item.1.2 := by
  have hFactor : i < payload.factors.length := by omega
  have hPrevious : i < (none :: payload.rawInputs.map some).length := by
    rw [List.length_cons, List.length_map]
    omega
  refine ⟨(((payload.rawInputs[i], payload.factors[i]), (none :: payload.rawInputs.map some)[i]), i), ?_, rfl, ?_⟩
  · rw [payloadRows, List.mk_mem_zipIdx_iff_getElem?, List.getElem?_zip_eq_some, List.getElem?_zip_eq_some]
    exact ⟨⟨List.getElem?_eq_getElem h, List.getElem?_eq_getElem hFactor⟩, List.getElem?_eq_getElem hPrevious⟩
  · exact List.getElem?_eq_getElem hPrevious

structure Ordered (payload : FactorPayload) : Prop where
  dated : ∀ raw ∈ payload.rawInputs, raw.observedAt.date = raw.observationDate
  dates : payload.rawInputs.Pairwise fun x y => x.observationDate < y.observationDate
  times : payload.rawInputs.Pairwise fun x y => x.observedAt < y.observedAt

theorem ordered_of_checked (lengths : payload.factors.length = payload.rawInputs.length)
    (checked : ∀ item ∈ payloadRows payload, validatePayloadRow payload.cutoff item = .ok PUnit.unit) :
    Ordered payload := by
  have hNext : ∀ i (h : i + 1 < payload.rawInputs.length),
      payload.rawInputs[i].observationDate < payload.rawInputs[i + 1].observationDate ∧
        payload.rawInputs[i].observedAt < payload.rawInputs[i + 1].observedAt := by
    intro i h
    obtain ⟨item, hMem, hRaw, hPrevious⟩ := exists_payloadRow lengths h
    rw [List.getElem?_cons_succ, List.getElem?_map, List.getElem?_eq_getElem (by omega), Option.map_some,
      Option.some.injEq] at hPrevious
    rw [← hRaw]
    exact (validatePayloadRow_eq_ok (checked item hMem)).2 _ hPrevious.symm
  constructor
  · intro raw hRaw
    obtain ⟨i, h, rfl⟩ := List.mem_iff_getElem.mp hRaw
    obtain ⟨item, hMem, hSame, -⟩ := exists_payloadRow lengths h
    rw [← hSame]
    exact (validatePayloadRow_eq_ok (checked item hMem)).1
  · have hChain : (payload.rawInputs.map PayloadRawInput.observationDate).IsChain (· < ·) := by
      rw [List.isChain_map, List.isChain_iff_getElem]
      exact fun i h => (hNext i h).1
    exact List.pairwise_map.mp hChain.pairwise
  · have hChain : (payload.rawInputs.map PayloadRawInput.observedAt).IsChain (· < ·) := by
      rw [List.isChain_map, List.isChain_iff_getElem]
      exact fun i h => (hNext i h).2
    exact List.pairwise_map.mp hChain.pairwise

/-- Every row lies in the window of its payload. -/
theorem Ordered.covers (ordered : Ordered payload) (hStart : coverageStart payload = some start)
    (hStop : coverageEnd payload = some stop) {raw : PayloadRawInput} (h : raw ∈ payload.rawInputs) :
    (payloadSpec payload start stop).Covers (rawBarKey payload.symbol raw.observedAt.micros) := by
  have hDays : (raw.observedAt.micros : Int) / dayMicros = raw.observationDate.days := by
    rw [← ordered.dated raw h, Instant.date, Date.days_ofDays, Int.natCast_ediv]
  rw [covers_rawBarKey_iff, hDays, Int.ofNat_le, Int.ofNat_le, Date.days_le_iff, Date.days_le_iff]
  constructor
  · obtain ⟨first, hFirst, rfl⟩ := Option.map_eq_some_iff.mp hStart
    obtain ⟨rest, hRest⟩ := List.head?_eq_some_iff.mp hFirst
    have hDates := ordered.dates
    rw [hRest] at h hDates
    rcases List.mem_cons.mp h with rfl | hLater
    · exact le_rfl
    · exact ((List.pairwise_cons.mp hDates).1 raw hLater).le
  · obtain ⟨last, hLast, rfl⟩ := Option.map_eq_some_iff.mp hStop
    rcases eq_or_rel_last ordered.dates h hLast with rfl | hEarlier
    · exact le_rfl
    · exact hEarlier.le

end Ordered

/-! ## All rows -/

section Rows

variable {runtime : Runtime} {a b : Archive} {payload : FactorPayload} {start stop : Date}

theorem receipt_row (inv : Archived a) {r : Receipt} (h : r ∈ newestVisible a.tables payload start stop) :
    ∃ row ∈ orderedFactorRows (payloadSpec payload start stop) a.tables, row.chosen.version.key.ts = r.key.ts ∧
      row.chosen.version.recordedAt = r.versionRecordedAt ∧ row.chosen.availableAt = r.availableAt := by
  obtain ⟨hCovers, v, hNewest, hFound⟩ := (mem_newestVisible_iff inv).mp h
  obtain ⟨-, hKey, hRecorded, -⟩ := Bars.BarTables.receiptBy_eq_some hFound
  refine ⟨⟨⟨factorVersion v, r.availableAt⟩, 1⟩, (mem_rows_iff inv).mpr ⟨?_, v, r, ?_, hFound, rfl⟩, ?_, ?_, rfl⟩
  · rw [hKey] at hCovers
    exact hCovers
  · rw [hKey] at hNewest
    exact hNewest
  · exact congrArg BarKey.ts hKey.symm
  · exact hRecorded.symm

theorem exists_receipt (inv : Archived a) {row : FactorRow}
    (h : row ∈ orderedFactorRows (payloadSpec payload start stop) a.tables) :
    ∃ r ∈ newestVisible a.tables payload start stop, r.key.ts = row.chosen.version.key.ts := by
  obtain ⟨hCovers, v, r, hNewest, hFound, rfl⟩ := (mem_rows_iff inv).mp h
  obtain ⟨-, hKey, -, -⟩ := Bars.BarTables.receiptBy_eq_some hFound
  refine ⟨r, (mem_newestVisible_iff inv).mpr ⟨?_, v, ?_, hFound⟩, congrArg BarKey.ts hKey⟩
  · rw [hKey]
    exact hCovers
  · rw [hKey]
    exact hNewest

theorem newestVisible_nodup (inv : Archived a) :
    ((newestVisible a.tables payload start stop).map fun r => r.key.ts).Nodup :=
  List.Nodup.map_on (fun _ hx _ hy hSame => eq_of_mem_rowNumberOne hx hy hSame)
    (rowNumberOne_nodup (((receipts_nodup inv).filter _).filter _))

/-- The publisher counts as many sessions as the builder has rows. -/
theorem length_newestVisible (inv : Archived a) : (newestVisible a.tables payload start stop).length =
    (orderedFactorRows (payloadSpec payload start stop) a.tables).length := by
  have hSessions : ((orderedFactorRows (payloadSpec payload start stop) a.tables).map
      fun row => row.chosen.version.key.ts).Nodup :=
    (List.pairwise_map.mpr inv.orderedFactorRows_strict).imp fun h => h.ne
  have hReceipts : ((newestVisible a.tables payload start stop).map fun r => r.key.ts).Nodup :=
    newestVisible_nodup inv
  have hPerm := (List.perm_ext_iff_of_nodup hReceipts hSessions).mpr fun ts => by
      rw [List.mem_map, List.mem_map]
      constructor
      · rintro ⟨r, hr, rfl⟩
        obtain ⟨row, hRow, hTs, -⟩ := receipt_row inv hr
        exact ⟨row, hRow, hTs⟩
      · rintro ⟨row, hRow, rfl⟩
        obtain ⟨r, hr, hTs⟩ := exists_receipt inv hRow
        exact ⟨r, hr, hTs⟩
  simpa using hPerm.length_eq

theorem row_unique (inv : Archived a) {x y : FactorRow}
    (hx : x ∈ orderedFactorRows (payloadSpec payload start stop) a.tables)
    (hy : y ∈ orderedFactorRows (payloadSpec payload start stop) a.tables)
    (h : x.chosen.version.key.ts = y.chosen.version.key.ts) : x = y := by
  obtain ⟨hxCount, hxCovers, hxRow⟩ := inv.mem_orderedFactorRows_iff.mp hx
  obtain ⟨hyCount, hyCovers, hyRow⟩ := inv.mem_orderedFactorRows_iff.mp hy
  rw [hxCovers.eq_of_ts hyCovers h, hyRow, Option.some.injEq] at hxRow
  obtain ⟨chosen, count⟩ := x
  obtain ⟨chosen', count'⟩ := y
  exact (FactorRow.mk.injEq ..).mpr ⟨hxRow.symm, hxCount.trans hyCount.symm⟩

theorem selection_of_stored (inv : Archived a) (ordered : Ordered payload)
    (hStart : coverageStart payload = some start) (hStop : coverageEnd payload = some stop)
    (stored : ∀ raw ∈ payload.rawInputs, validateStoredRow runtime a.tables payload raw = .ok PUnit.unit)
    (complete : validateCompleteRows a.tables payload start stop = .ok PUnit.unit) :
    payload.rawInputs.map PayloadRawInput.selection =
      (orderedFactorRows (payloadSpec payload start stop) a.tables).map (factorSelection runtime) := by
  refine eq_of_mem_iff_of_strict RawSelection.ts ?_ ?_ fun selection => ?_
  · exact List.pairwise_map.mpr (ordered.times.imp fun h => Int.ofNat_lt.mpr h)
  · exact List.pairwise_map.mpr inv.orderedFactorRows_strict
  · rw [List.mem_map, List.mem_map]
    constructor
    · rintro ⟨raw, hRaw, rfl⟩
      exact (validateStoredRow_iff inv (ordered.covers hStart hStop hRaw)).mp (stored raw hRaw)
    · rintro ⟨row, hRow, rfl⟩
      -- The receipt of the row is matched by a raw row, and that one is a row of the builder at the same time.
      obtain ⟨r, hr, hTs⟩ := exists_receipt inv hRow
      rw [validateCompleteRows, refuseIf_eq_ok_iff, not_or] at complete
      have hMatched := not_exists.mp complete.2 r
      rw [not_and, not_or, not_not, not_not] at hMatched
      obtain ⟨-, raw, hRaw, hRawTs, -, -⟩ := hMatched hr
      obtain ⟨other, hOther, hSelection⟩ :=
        (validateStoredRow_iff inv (ordered.covers hStart hStop hRaw)).mp (stored raw hRaw)
      have hOtherTs : other.chosen.version.key.ts = raw.observedAt.micros := congrArg RawSelection.ts hSelection
      refine ⟨raw, hRaw, ?_⟩
      rw [← hSelection, row_unique inv hOther hRow (hOtherTs.trans (hRawTs.trans hTs))]

theorem stored_of_selection (inv : Archived a) (ordered : Ordered payload)
    (hStart : coverageStart payload = some start) (hStop : coverageEnd payload = some stop)
    (same : payload.rawInputs.map PayloadRawInput.selection =
      (orderedFactorRows (payloadSpec payload start stop) a.tables).map (factorSelection runtime)) :
    (∀ raw ∈ payload.rawInputs, validateStoredRow runtime a.tables payload raw = .ok PUnit.unit) ∧
      validateCompleteRows a.tables payload start stop = .ok PUnit.unit := by
  constructor
  · intro raw hRaw
    have hSelection := List.mem_map_of_mem (f := PayloadRawInput.selection) hRaw
    rw [same, List.mem_map] at hSelection
    exact (validateStoredRow_iff inv (ordered.covers hStart hStop hRaw)).mpr hSelection
  · have hLength : (newestVisible a.tables payload start stop).length = payload.rawInputs.length := by
      simpa [length_newestVisible inv] using (congrArg List.length same).symm
    rw [validateCompleteRows, refuseIf_eq_ok_iff, not_or, not_not]
    refine ⟨hLength, ?_⟩
    rintro ⟨r, hr, hWrong⟩
    have hVisible : r ∈ visibleReceipts a.tables payload :=
      (List.mem_filter.mp (List.mem_filter.mp hr).1).1
    have hCount : greatestCount (visibleReceipts a.tables payload) r = 1 := by
      refine greatestCount_eq_one inv payload.symbol ((receipts_nodup inv).filter _) ?_ hVisible
      intro s hs
      rw [visibleReceipts, List.mem_filter, decide_eq_true_eq] at hs
      exact ⟨hs.1, hs.2.1⟩
    obtain ⟨row, hRow, hTs, hRecorded, hAvailable⟩ := receipt_row inv hr
    have hSelection := List.mem_map_of_mem (f := factorSelection runtime) hRow
    rw [← same, List.mem_map] at hSelection
    obtain ⟨raw, hRaw, hEq⟩ := hSelection
    rw [PayloadRawInput.selection, factorSelection, RawSelection.mk.injEq] at hEq
    rcases hWrong with hWrong | hWrong
    · exact hWrong hCount
    · exact hWrong ⟨raw, hRaw, hEq.1.trans hTs, hEq.2.1.trans hRecorded, hEq.2.2.1.trans hAvailable⟩

end Rows

end StockApi.Adjustment

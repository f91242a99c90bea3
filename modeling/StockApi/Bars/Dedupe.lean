import StockApi.Bars.Upsert

/-!
# One batch, one arrangement

The fold compares a row with the one representative of its key only. What it has collected stands
for all the rows seen so far, so neither the refusal nor the result depends on their order.
-/

namespace StockApi.Bars

open Checked Relational

theorem BarKey.order_inj {k l : BarKey} : k.order = l.order ↔ k = l := by
  constructor
  · intro h
    obtain ⟨symbol, timespan, multiplier, ts, source, basis⟩ := k
    obtain ⟨symbol', timespan', multiplier', ts', source', basis'⟩ := l
    simpa [BarKey.order] using h
  · rintro rfl
    rfl

/-- The rows in the order of their keys, one for each key. -/
def Deduped (rows : List BarUpsertRow) : Prop :=
  rows.Pairwise fun a b => a.key.order < b.key.order

theorem Deduped.nodup {rows : List BarUpsertRow} (h : Deduped rows) :
    (rows.map fun row => row.key).Nodup :=
  List.pairwise_map.mpr (h.imp fun hLess hSame => hLess.ne (congrArg BarKey.order hSame))

theorem Deduped.eq_of_key {rows : List BarUpsertRow} (h : Deduped rows) {a b : BarUpsertRow}
    (ha : a ∈ rows) (hb : b ∈ rows) (hKey : a.key = b.key) : a = b :=
  List.inj_on_of_nodup_map h.nodup ha hb hKey

/-- `(row.as_of, row.fetched_at)`. -/
def BarUpsertRow.availability (row : BarUpsertRow) : Lex (Int × Int) :=
  toLex (row.asOf, row.fetchedAt)

theorem BarUpsertRow.availability_lt {a b : BarUpsertRow} :
    a.availability < b.availability ↔
      a.asOf < b.asOf ∨ a.asOf = b.asOf ∧ a.fetchedAt < b.fetchedAt := by
  rw [availability, availability, Prod.Lex.toLex_lt_toLex]

/-- Key, values and availability are all there is to a row. -/
theorem BarUpsertRow.ext_of {a b : BarUpsertRow} (hKey : a.key = b.key)
    (hValues : a.values = b.values) (hAvailable : a.availability = b.availability) : a = b := by
  obtain ⟨⟨key, values, fetchedAt, asOf⟩, fetched, available⟩ := a
  obtain ⟨⟨key', values', fetchedAt', asOf'⟩, fetched', available'⟩ := b
  simp only at hKey hValues
  simp only [availability, toLex_inj, Prod.mk.injEq] at hAvailable
  obtain ⟨rfl, rfl⟩ := hAvailable
  subst hKey hValues
  rfl

def conflictingValues : UpsertError :=
  .versionConflict "one ingest batch cannot contain conflicting values for the same bar key"

/-- Rows of one key have the same values. -/
def Unconflicted (rows : List BarUpsertRow) : Prop :=
  ∀ a ∈ rows, ∀ b ∈ rows, a.key = b.key → a.values = b.values

theorem Unconflicted.mono {rows others : List BarUpsertRow} (h : Unconflicted rows)
    (sub : ∀ row ∈ others, row ∈ rows) : Unconflicted others :=
  fun a ha b hb => h a (sub a ha) b (sub b hb)

/-- The row has the values of its key and the earliest availability among the rows seen. -/
structure Earliest (seen : List BarUpsertRow) (d : BarUpsertRow) : Prop where
  mem : d ∈ seen
  values : ∀ row ∈ seen, row.key = d.key → row.values = d.values
  least : ∀ row ∈ seen, row.key = d.key → d.availability ≤ row.availability

theorem Earliest.eq {seen : List BarUpsertRow} {a b : BarUpsertRow} (ha : Earliest seen a)
    (hb : Earliest seen b) (hKey : a.key = b.key) : a = b := by
  apply BarUpsertRow.ext_of hKey
  · exact hb.values a ha.mem hKey
  · exact le_antisymm (ha.least b hb.mem hKey.symm) (hb.least a ha.mem hKey)

/-- The representatives of the rows seen, one for each key. -/
structure Collected (seen byKey : List BarUpsertRow) : Prop where
  nodup : (byKey.map fun row => row.key).Nodup
  covers : ∀ row ∈ seen, ∃ d ∈ byKey, d.key = row.key
  earliest : ∀ d ∈ byKey, Earliest seen d

theorem collected_nil : Collected [] [] := ⟨List.nodup_nil, by simp, by simp⟩

theorem Collected.unconflicted {seen byKey : List BarUpsertRow} (h : Collected seen byKey) :
    Unconflicted seen := by
  intro a ha b hb hKey
  obtain ⟨d, hd, hSame⟩ := h.covers a ha
  have hFirst := (h.earliest d hd).values a ha hSame.symm
  have hSecond := (h.earliest d hd).values b hb (hKey.symm.trans hSame.symm)
  rw [hFirst, hSecond]

theorem Collected.mem_keys {seen byKey : List BarUpsertRow} (h : Collected seen byKey) (k : BarKey) :
    (k ∈ byKey.map fun row => row.key) ↔ k ∈ seen.map fun row => row.key := by
  constructor
  · intro hk
    obtain ⟨d, hd, rfl⟩ := List.mem_map.mp hk
    exact List.mem_map.mpr ⟨d, (h.earliest d hd).mem, rfl⟩
  · intro hk
    obtain ⟨row, hRow, rfl⟩ := List.mem_map.mp hk
    exact List.mem_map.mpr (h.covers row hRow)

/-! ## One row -/

variable {seen byKey : List BarUpsertRow} {row previous : BarUpsertRow}

theorem Earliest.append {d : BarUpsertRow} (h : Earliest seen d) (values : row.key = d.key → row.values = d.values)
    (least : row.key = d.key → d.availability ≤ row.availability) : Earliest (seen ++ [row]) d := by
  constructor
  · exact List.mem_append_left _ h.mem
  · intro other hOther
    rcases List.mem_append.mp hOther with hOther | hOther
    · exact h.values other hOther
    · rw [List.mem_singleton.mp hOther]
      exact values
  · intro other hOther
    rcases List.mem_append.mp hOther with hOther | hOther
    · exact h.least other hOther
    · rw [List.mem_singleton.mp hOther]
      exact least

theorem Collected.append_new (h : Collected seen byKey) (new : ∀ d ∈ byKey, d.key ≠ row.key) :
    Collected (seen ++ [row]) (byKey ++ [row]) := by
  constructor
  · rw [List.map_append, List.map_singleton, List.nodup_append]
    refine ⟨h.nodup, List.nodup_singleton _, ?_⟩
    intro k hk l hl
    obtain ⟨d, hd, rfl⟩ := List.mem_map.mp hk
    rw [List.mem_singleton.mp hl]
    exact new d hd
  · intro other hOther
    rcases List.mem_append.mp hOther with hOther | hOther
    · obtain ⟨d, hd, hKey⟩ := h.covers other hOther
      exact ⟨d, List.mem_append_left _ hd, hKey⟩
    · exact ⟨row, by simp, by rw [List.mem_singleton.mp hOther]⟩
  · intro d hd
    rcases List.mem_append.mp hd with hd | hd
    · have hKey : row.key ≠ d.key := (new d hd).symm
      exact (h.earliest d hd).append (fun hSame => absurd hSame hKey) fun hSame => absurd hSame hKey
    · rw [List.mem_singleton.mp hd]
      have hUnseen : ∀ other ∈ seen, other.key ≠ row.key := by
        intro other hOther hSame
        obtain ⟨c, hc, hKey⟩ := h.covers other hOther
        exact new c hc (hKey.trans hSame)
      constructor
      · simp
      · intro other hOther hSame
        rcases List.mem_append.mp hOther with hOther | hOther
        · exact absurd hSame (hUnseen other hOther)
        · rw [List.mem_singleton.mp hOther]
      · intro other hOther hSame
        rcases List.mem_append.mp hOther with hOther | hOther
        · exact absurd hSame (hUnseen other hOther)
        · rw [List.mem_singleton.mp hOther]

/-- A representative that is kept. -/
theorem Collected.append_kept (h : Collected seen byKey) (hMem : previous ∈ byKey)
    (hKey : previous.key = row.key) (hValues : previous.values = row.values)
    (hLeast : previous.availability ≤ row.availability) : Collected (seen ++ [row]) byKey := by
  constructor
  · exact h.nodup
  · intro other hOther
    rcases List.mem_append.mp hOther with hOther | hOther
    · exact h.covers other hOther
    · rw [List.mem_singleton.mp hOther]
      exact ⟨previous, hMem, hKey⟩
  · intro d hd
    have hSame : row.key = d.key → d = previous := fun hRow =>
      List.inj_on_of_nodup_map h.nodup hd hMem (hRow.symm.trans hKey.symm)
    apply (h.earliest d hd).append
    · intro hRow
      rw [hSame hRow, hValues]
    · intro hRow
      rwa [hSame hRow]

/-- A representative that gives way to an earlier row. -/
theorem Collected.append_replaced (h : Collected seen byKey) (hMem : previous ∈ byKey)
    (hKey : previous.key = row.key) (hValues : previous.values = row.values)
    (hLess : row.availability < previous.availability) :
    Collected (seen ++ [row]) (byKey.map fun other => if other.key = row.key then row else other) := by
  have hKeys : ((byKey.map fun other => if other.key = row.key then row else other).map
      fun row => row.key) = byKey.map fun row => row.key := by
    rw [List.map_map]
    apply List.map_congr_left
    intro other _
    by_cases hSame : other.key = row.key
    · simp [hSame]
    · simp [hSame]
  constructor
  · rw [hKeys]
    exact h.nodup
  · intro other hOther
    have hOld : other.key ∈ byKey.map fun row => row.key := by
      rcases List.mem_append.mp hOther with hOther | hOther
      · exact List.mem_map.mpr (h.covers other hOther)
      · rw [List.mem_singleton.mp hOther]
        exact List.mem_map.mpr ⟨previous, hMem, hKey⟩
    rw [← hKeys] at hOld
    exact List.mem_map.mp hOld
  · intro d hd
    obtain ⟨old, hOld, rfl⟩ := List.mem_map.mp hd
    by_cases hSame : old.key = row.key
    · rw [if_pos hSame]
      have hEarliest := h.earliest previous hMem
      constructor
      · simp
      · intro other hOther hRow
        rcases List.mem_append.mp hOther with hOther | hOther
        · rw [hEarliest.values other hOther (hRow.trans hKey.symm), hValues]
        · rw [List.mem_singleton.mp hOther]
      · intro other hOther hRow
        rcases List.mem_append.mp hOther with hOther | hOther
        · exact hLess.le.trans (hEarliest.least other hOther (hRow.trans hKey.symm))
        · rw [List.mem_singleton.mp hOther]
    · rw [if_neg hSame]
      exact (h.earliest old hOld).append (fun hRow => absurd hRow.symm hSame)
        fun hRow => absurd hRow.symm hSame

/-- One row is taken exactly when it agrees with every row of its key seen so far. -/
theorem Collected.dedupeRow (h : Collected seen byKey) (row : BarUpsertRow) :
    (Unconflicted (seen ++ [row]) ∧
        ∃ next, dedupeRow byKey row = .ok next ∧ Collected (seen ++ [row]) next) ∨
      (¬ Unconflicted (seen ++ [row]) ∧ dedupeRow byKey row = .error conflictingValues) := by
  unfold Bars.dedupeRow
  cases hFind : byKey.find? fun previous => decide (previous.key = row.key) with
  | none =>
    have hNew : ∀ d ∈ byKey, d.key ≠ row.key := by simpa using hFind
    have hNext := h.append_new hNew
    exact Or.inl ⟨hNext.unconflicted, _, rfl, hNext⟩
  | some previous =>
    have hMem := List.mem_of_find?_eq_some hFind
    have hKey : previous.key = row.key := by simpa using List.find?_some hFind
    by_cases hValues : previous.values = row.values
    · simp only [ne_eq, hValues, not_true_eq_false, if_false]
      by_cases hLess : row.availability < previous.availability
      · have hNext := h.append_replaced hMem hKey hValues hLess
        exact Or.inl ⟨hNext.unconflicted, _, if_pos (BarUpsertRow.availability_lt.mp hLess), hNext⟩
      · have hNext := h.append_kept hMem hKey hValues (not_lt.mp hLess)
        exact Or.inl ⟨hNext.unconflicted, _, if_neg (mt BarUpsertRow.availability_lt.mpr hLess), hNext⟩
    · refine Or.inr ⟨fun hAgree => hValues ?_, if_pos hValues⟩
      exact hAgree previous (List.mem_append_left _ (h.earliest previous hMem).mem) row
        (by simp) hKey

/-! ## A batch -/

theorem Collected.foldlM_dedupeRow (h : Collected seen byKey) (rows : List BarUpsertRow) :
    (Unconflicted (seen ++ rows) ∧
        ∃ result, rows.foldlM Bars.dedupeRow byKey = .ok result ∧ Collected (seen ++ rows) result) ∨
      (¬ Unconflicted (seen ++ rows) ∧ rows.foldlM Bars.dedupeRow byKey = .error conflictingValues) := by
  induction rows generalizing seen byKey with
  | nil =>
    rw [List.append_nil]
    exact Or.inl ⟨h.unconflicted, byKey, rfl, h⟩
  | cons row rest ih =>
    have hSplit : seen ++ row :: rest = (seen ++ [row]) ++ rest := by simp
    rw [List.foldlM_cons, hSplit]
    rcases h.dedupeRow row with ⟨-, next, hNext, hCollected⟩ | ⟨hMixed, hError⟩
    · rw [hNext, ok_bind]
      exact ih hCollected
    · rw [hError, error_bind]
      refine Or.inr ⟨fun hAgree => hMixed ?_, rfl⟩
      exact hAgree.mono fun other hOther => List.mem_append_left _ hOther

/-- The rows in the order of their keys stand for the batch. -/
structure Canonical (batch rows : List BarUpsertRow) : Prop extends Collected batch rows where
  ordered : Deduped rows

theorem Collected.canonical {batch byKey : List BarUpsertRow} (h : Collected batch byKey) :
    Canonical batch (orderAsc (fun row => row.key.order) byKey) := by
  have hMem : ∀ d, d ∈ orderAsc (fun row : BarUpsertRow => row.key.order) byKey ↔ d ∈ byKey :=
    fun d => orderAsc_perm.mem_iff
  have hOrders : (byKey.map fun row => row.key.order).Nodup := by
    have hCompose : (byKey.map fun row => row.key.order) =
        (byKey.map fun row => row.key).map BarKey.order := by rw [List.map_map]; rfl
    rw [hCompose]
    exact h.nodup.map fun _ _ hSame => BarKey.order_inj.mp hSame
  have hOrdered : Deduped (orderAsc (fun row : BarUpsertRow => row.key.order) byKey) :=
    orderAsc_strict hOrders
  refine ⟨⟨hOrdered.nodup, ?_, ?_⟩, hOrdered⟩
  · intro row hRow
    obtain ⟨d, hd, hKey⟩ := h.covers row hRow
    exact ⟨d, (hMem d).mpr hd, hKey⟩
  · intro d hd
    exact h.earliest d ((hMem d).mp hd)

/-- A batch has one arrangement, which its set of rows determines. -/
theorem Canonical.eq {batch others rows rows' : List BarUpsertRow} (h : Canonical batch rows)
    (h' : Canonical others rows') (same : ∀ row, row ∈ batch ↔ row ∈ others) : rows = rows' := by
  have hOthers : ∀ {d}, Earliest others d → Earliest batch d := fun hd =>
    ⟨(same _).mpr hd.mem, fun row hRow => hd.values row ((same row).mp hRow),
      fun row hRow => hd.least row ((same row).mp hRow)⟩
  have hMem : ∀ d, d ∈ rows ↔ d ∈ rows' := by
    intro d
    constructor
    · intro hd
      have hEarliest := h.earliest d hd
      obtain ⟨c, hc, hKey⟩ := h'.covers d ((same d).mp hEarliest.mem)
      rwa [← (hOthers (h'.earliest c hc)).eq hEarliest hKey]
    · intro hd
      have hEarliest := hOthers (h'.earliest d hd)
      obtain ⟨c, hc, hKey⟩ := h.covers d hEarliest.mem
      rwa [← (h.earliest c hc).eq hEarliest hKey]
  have hPerm : rows.Perm rows' :=
    (List.perm_ext_iff_of_nodup h.ordered.nodup.of_map h'.ordered.nodup.of_map).mpr hMem
  exact hPerm.eq_of_pairwise (fun _ _ _ _ hLess hMore => absurd hMore hLess.asymm) h.ordered h'.ordered

theorem dedupeRows_cases (batch : List BarUpsertRow) :
    (Unconflicted batch ∧ ∃ rows, dedupeRows batch = .ok rows ∧ Canonical batch rows) ∨
      (¬ Unconflicted batch ∧ dedupeRows batch = .error conflictingValues) := by
  unfold dedupeRows
  rcases collected_nil.foldlM_dedupeRow batch with ⟨hAgree, byKey, hFold, h⟩ | ⟨hMixed, hFold⟩
  · rw [List.nil_append] at hAgree h
    exact Or.inl ⟨hAgree, _, by rw [hFold]; rfl, h.canonical⟩
  · rw [List.nil_append] at hMixed
    exact Or.inr ⟨hMixed, by rw [hFold]; rfl⟩

theorem canonical_of_dedupeRows {batch rows : List BarUpsertRow} (h : dedupeRows batch = .ok rows) :
    Canonical batch rows := by
  rcases dedupeRows_cases batch with ⟨-, found, hFound, hCanonical⟩ | ⟨-, hError⟩
  · rw [h] at hFound
    cases hFound
    exact hCanonical
  · rw [h] at hError
    cases hError

theorem dedupeRows_of_not_unconflicted {batch : List BarUpsertRow} (h : ¬ Unconflicted batch) :
    dedupeRows batch = .error conflictingValues := by
  rcases dedupeRows_cases batch with ⟨hAgree, -⟩ | ⟨-, hError⟩
  · exact absurd hAgree h
  · exact hError

theorem exists_dedupeRows {batch : List BarUpsertRow} (h : Unconflicted batch) :
    ∃ rows, dedupeRows batch = .ok rows := by
  rcases dedupeRows_cases batch with ⟨-, rows, hRows, -⟩ | ⟨hMixed, -⟩
  · exact ⟨rows, hRows⟩
  · exact absurd h hMixed

/-- Batches with the same rows are deduplicated alike. -/
theorem dedupeRows_congr {batch others : List BarUpsertRow} (same : ∀ row, row ∈ batch ↔ row ∈ others) :
    dedupeRows batch = dedupeRows others := by
  have hAgree : Unconflicted batch ↔ Unconflicted others :=
    ⟨fun h => h.mono fun row => (same row).mpr, fun h => h.mono fun row => (same row).mp⟩
  by_cases h : Unconflicted batch
  · obtain ⟨rows, hRows⟩ := exists_dedupeRows h
    obtain ⟨rows', hRows'⟩ := exists_dedupeRows (hAgree.mp h)
    rw [hRows, hRows', (canonical_of_dedupeRows hRows).eq (canonical_of_dedupeRows hRows') same]
  · rw [dedupeRows_of_not_unconflicted h, dedupeRows_of_not_unconflicted (mt hAgree.mpr h)]

/-! ## Two batches -/

/-- The earliest of the representatives is the earliest row of its key. -/
theorem Earliest.of_parts {left right a b : List BarUpsertRow} (ha : Collected left a)
    (hb : Collected right b) {d : BarUpsertRow} (h : Earliest (a ++ b) d) :
    Earliest (left ++ right) d := by
  -- every row of a part is represented by an earlier one of the same key and values
  have hPart : ∀ row ∈ left ++ right, ∃ c ∈ a ++ b, c.key = row.key ∧ c.values = row.values ∧
      c.availability ≤ row.availability := by
    intro row hRow
    rcases List.mem_append.mp hRow with hRow | hRow
    · obtain ⟨c, hc, hKey⟩ := ha.covers row hRow
      exact ⟨c, List.mem_append_left _ hc, hKey, ((ha.earliest c hc).values row hRow hKey.symm).symm,
        (ha.earliest c hc).least row hRow hKey.symm⟩
    · obtain ⟨c, hc, hKey⟩ := hb.covers row hRow
      exact ⟨c, List.mem_append_right _ hc, hKey, ((hb.earliest c hc).values row hRow hKey.symm).symm,
        (hb.earliest c hc).least row hRow hKey.symm⟩
  constructor
  · rcases List.mem_append.mp h.mem with hd | hd
    · exact List.mem_append_left _ (ha.earliest d hd).mem
    · exact List.mem_append_right _ (hb.earliest d hd).mem
  · intro row hRow hKey
    obtain ⟨c, hc, hSame, hValues, -⟩ := hPart row hRow
    rw [← hValues, h.values c hc (hSame.trans hKey)]
  · intro row hRow hKey
    obtain ⟨c, hc, hSame, -, hLeast⟩ := hPart row hRow
    exact (h.least c hc (hSame.trans hKey)).trans hLeast

theorem Canonical.of_parts {left right a b rows : List BarUpsertRow} (ha : Collected left a)
    (hb : Collected right b) (h : Canonical (a ++ b) rows) : Canonical (left ++ right) rows := by
  refine ⟨⟨h.nodup, ?_, ?_⟩, h.ordered⟩
  · intro row hRow
    have hPart : ∃ c ∈ a ++ b, c.key = row.key := by
      rcases List.mem_append.mp hRow with hRow | hRow
      · obtain ⟨c, hc, hKey⟩ := ha.covers row hRow
        exact ⟨c, List.mem_append_left _ hc, hKey⟩
      · obtain ⟨c, hc, hKey⟩ := hb.covers row hRow
        exact ⟨c, List.mem_append_right _ hc, hKey⟩
    obtain ⟨c, hc, hKey⟩ := hPart
    obtain ⟨d, hd, hSame⟩ := h.covers c hc
    exact ⟨d, hd, hSame.trans hKey⟩
  · intro d hd
    exact (h.earliest d hd).of_parts ha hb

theorem unconflicted_append_iff {left right a b : List BarUpsertRow} (ha : Collected left a)
    (hb : Collected right b) : Unconflicted (left ++ right) ↔ Unconflicted (a ++ b) := by
  constructor
  · intro h
    apply h.mono
    intro d hd
    rcases List.mem_append.mp hd with hd | hd
    · exact List.mem_append_left _ (ha.earliest d hd).mem
    · exact List.mem_append_right _ (hb.earliest d hd).mem
  · intro h
    obtain ⟨rows, hRows⟩ := exists_dedupeRows h
    exact ((canonical_of_dedupeRows hRows).of_parts ha hb).unconflicted

/-- Deduplicating the parts first changes neither the refusal nor the result. -/
theorem dedupeRows_append (left right : List BarUpsertRow) :
    dedupeRows (left ++ right) = (do
      let a ← dedupeRows left
      let b ← dedupeRows right
      dedupeRows (a ++ b)) := by
  by_cases hLeft : Unconflicted left
  · by_cases hRight : Unconflicted right
    · obtain ⟨a, hA⟩ := exists_dedupeRows hLeft
      obtain ⟨b, hB⟩ := exists_dedupeRows hRight
      have ha := canonical_of_dedupeRows hA
      have hb := canonical_of_dedupeRows hB
      have hAgree := unconflicted_append_iff ha.toCollected hb.toCollected
      rw [hA, ok_bind, hB, ok_bind]
      by_cases h : Unconflicted (left ++ right)
      · obtain ⟨rows, hRows⟩ := exists_dedupeRows h
        obtain ⟨rows', hRows'⟩ := exists_dedupeRows (hAgree.mp h)
        have hCanonical := (canonical_of_dedupeRows hRows').of_parts ha.toCollected hb.toCollected
        rw [hRows, hRows', (canonical_of_dedupeRows hRows).eq hCanonical fun _ => Iff.rfl]
      · rw [dedupeRows_of_not_unconflicted h, dedupeRows_of_not_unconflicted (mt hAgree.mpr h)]
    · obtain ⟨a, hA⟩ := exists_dedupeRows hLeft
      have hMixed : ¬ Unconflicted (left ++ right) := fun h =>
        hRight (h.mono fun row hRow => List.mem_append_right _ hRow)
      rw [hA, ok_bind, dedupeRows_of_not_unconflicted hRight, error_bind,
        dedupeRows_of_not_unconflicted hMixed]
  · have hMixed : ¬ Unconflicted (left ++ right) := fun h =>
      hLeft (h.mono fun row hRow => List.mem_append_left _ hRow)
    rw [dedupeRows_of_not_unconflicted hLeft, error_bind, dedupeRows_of_not_unconflicted hMixed]

/-! ## Again -/

theorem foldlM_dedupeRow_of_nodup (rows byKey : List BarUpsertRow)
    (nodup : ((byKey ++ rows).map fun row => row.key).Nodup) :
    rows.foldlM dedupeRow byKey = .ok (byKey ++ rows) := by
  induction rows generalizing byKey with
  | nil => simp
  | cons row rest ih =>
    have hNew : byKey.find? (fun previous => decide (previous.key = row.key)) = none := by
      rw [List.find?_eq_none]
      intro d hd hSame
      rw [List.map_append, List.nodup_append] at nodup
      exact nodup.2.2 _ (List.mem_map.mpr ⟨d, hd, rfl⟩) _ (List.mem_map.mpr ⟨row, by simp, rfl⟩)
        (of_decide_eq_true hSame)
    have hRow : dedupeRow byKey row = .ok (byKey ++ [row]) := by
      rw [dedupeRow, hNew]
    rw [List.foldlM_cons, hRow, ok_bind, ih _ (by simpa using nodup), List.append_assoc]
    rfl

/-- Deduplicating again changes nothing. -/
theorem Deduped.dedupeRows_eq {rows : List BarUpsertRow} (h : Deduped rows) :
    dedupeRows rows = .ok rows := by
  rw [dedupeRows, foldlM_dedupeRow_of_nodup rows [] h.nodup, ok_bind, List.nil_append,
    orderAsc_eq_self h]
  rfl

/-- A batch is refused exactly when two rows of one key differ. Otherwise each key has one row, in
the order of the keys, with its values and its earliest availability; the outcome depends on the
set of rows only, and deduplicating again, or the parts first, changes nothing. -/
theorem dedupeRows_canonical (batch : List BarUpsertRow) :
    ((∃ e, dedupeRows batch = .error e) ↔
      ∃ a ∈ batch, ∃ b ∈ batch, a.key = b.key ∧ a.values ≠ b.values) ∧
    (∀ rows, dedupeRows batch = .ok rows →
      (rows.Pairwise fun a b => a.key.order < b.key.order) ∧
      (∀ k, (k ∈ rows.map fun row => row.key) ↔ k ∈ batch.map fun row => row.key) ∧
      (∀ d ∈ rows, d ∈ batch ∧ ∀ row ∈ batch, row.key = d.key →
        row.values = d.values ∧ d.availability ≤ row.availability) ∧
      dedupeRows rows = .ok rows) ∧
    (∀ others : List BarUpsertRow, batch.Perm others → dedupeRows others = dedupeRows batch) ∧
    ∀ others : List BarUpsertRow, dedupeRows (batch ++ others) = (do
      let a ← dedupeRows batch
      let b ← dedupeRows others
      dedupeRows (a ++ b)) := by
  refine ⟨?_, ?_, ?_, dedupeRows_append batch⟩
  · have hNot : (∃ a ∈ batch, ∃ b ∈ batch, a.key = b.key ∧ a.values ≠ b.values) ↔
        ¬ Unconflicted batch := by
      simp only [Unconflicted, not_forall, exists_prop]
    rw [hNot]
    constructor
    · rintro ⟨e, hError⟩ hAgree
      obtain ⟨rows, hRows⟩ := exists_dedupeRows hAgree
      rw [hRows] at hError
      cases hError
    · intro h
      exact ⟨_, dedupeRows_of_not_unconflicted h⟩
  · intro rows hRows
    have h := canonical_of_dedupeRows hRows
    refine ⟨h.ordered, h.mem_keys, ?_, h.ordered.dedupeRows_eq⟩
    intro d hd
    have hEarliest := h.earliest d hd
    exact ⟨hEarliest.mem, fun row hRow hKey =>
      ⟨hEarliest.values row hRow hKey, hEarliest.least row hRow hKey⟩⟩
  · intro others hPerm
    exact dedupeRows_congr fun row => hPerm.mem_iff.symm

end StockApi.Bars

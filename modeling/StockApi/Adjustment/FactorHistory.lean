import StockApi.Adjustment.FactorStore

/-!
# Histories of factor sets

A set is stored with all its entries or not at all, nothing stored is changed later, and every entry names a
receipted version of the bars.
-/

namespace StockApi.Adjustment

open Checked CivilTime Relational Text Relation
open Bars (Archive Archived Bar BarKey BarStep BarTables DbCall Receipt)

variable {runtime : Runtime} {decodePayload : Bytes → Except SqlError FactorPayload}

/-! ## What a publication stores -/

theorem insertFactorEntry_eq_ok {tx : DbCall} {tables : BarTables} {f f' : FactorTables} {e : FactorEntryContent}
    (h : insertFactorEntry tx tables f e = .ok f') : exactReceipt tables e ∧ (FactorEntry.mk e tx.txid).Checks ∧
      (∀ other ∈ f.entries, other.factorSetId = e.factorSetId →
        other.ordinal ≠ e.ordinal ∧ other.observationDate ≠ e.observationDate) ∧
      (∀ receipt ∈ f.receipts, receipt.factorSetId ≠ e.factorSetId) ∧
      f' = { f with entries := f.entries ++ [⟨e, tx.txid⟩] } := by
  rw [insertFactorEntry, orRefuse_bind_eq_ok_iff] at h
  obtain ⟨header, -, h⟩ := h
  rw [refuseIf_bind_eq_ok_iff, refuseIf_bind_eq_ok_iff, refuseIf_bind_eq_ok_iff, refuseIf_bind_eq_ok_iff,
    refuseIf_bind_eq_ok_iff, pure_eq_ok] at h
  obtain ⟨-, hOpen, hChecks, hNew, hReceipt, h⟩ := h
  cases h
  refine ⟨not_not.mp hReceipt, not_not.mp hChecks, fun other hOther hSet => ?_, fun receipt hMem hSet => ?_, rfl⟩
  · exact not_or.mp fun hSame => hNew ⟨other, hOther, hSet, hSame⟩
  · exact hOpen ⟨receipt, hMem, hSet⟩

/-- All entries are inserted, each of them for a receipted version. -/
theorem insertFactorEntries_eq_ok {tx : DbCall} {tables : BarTables} {entries : List FactorEntryContent}
    {f f' : FactorTables} (h : entries.foldlM (insertFactorEntry tx tables) f = .ok f') :
    (∀ e ∈ entries, exactReceipt tables e ∧ (FactorEntry.mk e tx.txid).Checks) ∧
      f' = { f with entries := f.entries ++ entries.map fun e => ⟨e, tx.txid⟩ } := by
  induction entries generalizing f with
  | nil =>
    cases h
    refine ⟨fun e he => absurd he List.not_mem_nil, ?_⟩
    rw [List.map_nil, List.append_nil]
  | cons e rest ih =>
    rw [List.foldlM_cons, bind_eq_ok_iff] at h
    obtain ⟨next, hFirst, hRest⟩ := h
    obtain ⟨hReceipt, hChecks, -, -, rfl⟩ := insertFactorEntry_eq_ok hFirst
    obtain ⟨hAll, rfl⟩ := ih hRest
    refine ⟨List.forall_mem_cons.mpr ⟨⟨hReceipt, hChecks⟩, hAll⟩, ?_⟩
    rw [List.map_cons, List.append_assoc, List.singleton_append]

theorem insertFactorSet_eq_ok {tx : DbCall} {content : FactorSetContent} {f f' : FactorTables}
    (h : insertFactorSet runtime tx content f = .ok f') :
      (FactorSetHeader.mk content tx.clock tx.txid).Checks runtime.sha256 ∧
      (((∃ header ∈ f.headers, header.factorSetId = content.factorSetId) ∧ f' = f) ∨
        ((∀ header ∈ f.headers, header.factorSetId ≠ content.factorSetId) ∧
          f' = { f with headers := f.headers ++ [⟨content, tx.clock, tx.txid⟩] })) := by
  rw [insertFactorSet, refuseIf_bind_eq_ok_iff] at h
  obtain ⟨hChecks, h⟩ := h
  refine ⟨not_not.mp hChecks, ?_⟩
  split_ifs at h with hFound
  · cases h
    exact Or.inl ⟨hFound, rfl⟩
  · cases h
    exact Or.inr ⟨fun header hMem hSame => hFound ⟨header, hMem, hSame⟩, rfl⟩

/-- A publication stores nothing, since the set is there with the same content, or the set with its entries. -/
theorem storeFactorSet_eq_ok {tx : DbCall} {tables : BarTables} {content : FactorSetContent}
    {entries : List FactorEntryContent} {f f' : FactorTables}
    (h : storeFactorSet runtime tx tables content entries f = .ok f') :
    (FactorSetHeader.mk content tx.clock tx.txid).Checks runtime.sha256 ∧
    (∃ header ∈ f'.headers, header.toFactorSetContent = content) ∧
    (f'.entries.filter fun e => decide (e.factorSetId = content.factorSetId)).length = content.inputCount ∧
    (∀ e ∈ entries, ∃ entry ∈ f'.entries, entry.toFactorEntryContent = e) ∧
    (f' = f ∨ (∀ header ∈ f.headers, header.factorSetId ≠ content.factorSetId) ∧
      (∀ e ∈ entries, exactReceipt tables e ∧ (FactorEntry.mk e tx.txid).Checks) ∧
      f' = ⟨f.headers ++ [⟨content, tx.clock, tx.txid⟩], f.entries ++ entries.map fun e => ⟨e, tx.txid⟩,
        f.receipts⟩) := by
  rw [storeFactorSet, bind_eq_ok_iff] at h
  obtain ⟨inserted, hHeader, h⟩ := h
  rw [refuseIf_bind_eq_ok_iff, bind_eq_ok_iff] at h
  obtain ⟨hSame, stored, hEntries, h⟩ := h
  rw [refuseIf_bind_eq_ok_iff, refuseIf_bind_eq_ok_iff, pure_eq_ok] at h
  obtain ⟨hCount, hProjection, h⟩ := h
  cases h
  rw [not_not] at hSame hCount hProjection
  obtain ⟨hChecks, ⟨-, rfl⟩ | ⟨hNew, rfl⟩⟩ := insertFactorSet_eq_ok hHeader
  · rw [insertFactorEntries, if_neg (lt_irrefl _)] at hEntries
    cases hEntries
    exact ⟨hChecks, hSame, hCount, hProjection, Or.inl rfl⟩
  · have hGrown : f.headers.length < (f.headers ++ [FactorSetHeader.mk content tx.clock tx.txid]).length := by
      rw [List.length_append, List.length_singleton]
      exact Nat.lt_succ_self _
    rw [insertFactorEntries, if_pos hGrown] at hEntries
    obtain ⟨hAll, rfl⟩ := insertFactorEntries_eq_ok hEntries
    exact ⟨hChecks, hSame, hCount, hProjection, Or.inr ⟨hNew, hAll, rfl⟩⟩

theorem payloadEntries_id {factorSetId : String} {payload : FactorPayload} {e : FactorEntryContent}
    (h : e ∈ payloadEntries factorSetId payload) : e.factorSetId = factorSetId := by
  obtain ⟨item, -, rfl⟩ := List.mem_map.mp h
  rfl

theorem payloadEntries_ordinals (factorSetId : String) (payload : FactorPayload) :
    (payloadEntries factorSetId payload).map (fun e => e.ordinal) =
      List.range (payloadEntries factorSetId payload).length := by
  rw [payloadEntries, List.map_map, List.length_map, List.length_zipIdx, List.range_eq_range']
  exact List.zipIdx_map_snd 0 _

theorem lengths_of_root {payload : FactorPayload} (h : validateFactorRoot payload = .ok PUnit.unit) :
    payload.factors.length = payload.rawInputs.length := by
  simp only [validateFactorRoot, bind_eq_ok_iff, refuseIf_eq_ok_iff] at h
  obtain ⟨_, -, _, hCardinality, -⟩ := h
  rw [not_or, not_or, not_not] at hCardinality
  exact hCardinality.2.2

/-- The steps of a publication, the stored ones by name. -/
theorem publishAdjustmentFactorSet_eq_ok {call : FactorCall} {tables : BarTables} {f f' : FactorTables}
    {factorSetId : String}
    (h : publishAdjustmentFactorSet runtime decodePayload call tables f = .ok (factorSetId, f')) :
    ∃ payload content, decodePayload call.payloadBytes = .ok payload ∧
      factorSetId = "sha256:" ++ runtime.sha256 call.payloadBytes ∧ content.factorSetId = factorSetId ∧
      content.canonicalPayload = call.payloadBytes ∧ content.inputCount = payload.rawInputs.length ∧
      payload.factors.length = payload.rawInputs.length ∧
      storeFactorSet runtime call.tx tables content (payloadEntries factorSetId payload) f = .ok f' := by
  simp only [publishAdjustmentFactorSet, bind_eq_ok_iff] at h
  obtain ⟨_, -, payload, hPayload, _, hRoot, start, -, stop, -, _, -, evidence, -, _, -, _, -, _, -, stored,
    hStored, h⟩ := h
  cases h
  exact ⟨payload, _, hPayload, rfl, rfl, rfl, rfl, lengths_of_root hRoot, hStored⟩

theorem publishAdjustmentFactorSetReceipt_eq_ok {tx : DbCall} {factorSetId : String} {f f' : FactorTables}
    (h : publishAdjustmentFactorSetReceipt tx factorSetId f = .ok f') :
    ∃ header ∈ f.headers, header.factorSetId = factorSetId ∧ header.creatorXid ≠ tx.txid ∧
      (f' = f ∨ (∀ receipt ∈ f.receipts, receipt.factorSetId ≠ factorSetId) ∧
        f' = { f with receipts := f.receipts ++ [⟨factorSetId, header.recordedAt, tx.clock⟩] }) := by
  rw [publishAdjustmentFactorSetReceipt, refuseIf_bind_eq_ok_iff, orRefuse_bind_eq_ok_iff] at h
  obtain ⟨-, header, hFound, h⟩ := h
  rw [refuseIf_bind_eq_ok_iff, refuseIf_bind_eq_ok_iff] at h
  obtain ⟨hLater, -, h⟩ := h
  have hId : header.factorSetId = factorSetId := by
    simpa using List.find?_some hFound
  refine ⟨header, List.mem_of_find?_eq_some hFound, hId, hLater, ?_⟩
  split_ifs at h with hOld
  · cases h
    exact Or.inl rfl
  · cases h
    exact Or.inr ⟨fun receipt hMem hSame => hOld ⟨receipt, hMem, hSame⟩, rfl⟩

/-! ## Later stores -/

def FactorTables.entriesOf (f : FactorTables) (factorSetId : String) : List FactorEntry :=
  f.entries.filter fun e => decide (e.factorSetId = factorSetId)

/-- What a later store keeps: the versions, their receipts, and every set with its entries and its receipts. -/
structure Keeps (s t : FactorStore) : Prop where
  written : s.archive.written <+: t.archive.written
  barReceipts : s.archive.tables.receipts <+: t.archive.tables.receipts
  headers : s.factors.headers <+: t.factors.headers
  receipts : s.factors.receipts <+: t.factors.receipts
  entries : ∀ header ∈ s.factors.headers,
    t.factors.entriesOf header.factorSetId = s.factors.entriesOf header.factorSetId

theorem Keeps.refl (s : FactorStore) : Keeps s s :=
  ⟨List.prefix_rfl, List.prefix_rfl, List.prefix_rfl, List.prefix_rfl, fun _ _ => rfl⟩

theorem Keeps.trans {s t u : FactorStore} (h : Keeps s t) (h' : Keeps t u) : Keeps s u where
  written := h.written.trans h'.written
  barReceipts := h.barReceipts.trans h'.barReceipts
  headers := h.headers.trans h'.headers
  receipts := h.receipts.trans h'.receipts
  entries header hMem := (h'.entries header (h.headers.subset hMem)).trans (h.entries header hMem)

/-- A write to the bars keeps the versions and the receipts. -/
theorem keeps_of_barStep {a b : Archive} (step : BarStep a b) :
    a.written <+: b.written ∧ a.tables.receipts <+: b.tables.receipts := by
  obtain ⟨w, h⟩ := step
  cases w with
  | insert tx row =>
    rw [Archive.write, bind_eq_ok_iff] at h
    obtain ⟨⟨stored, t⟩, done, h⟩ := h
    cases h
    obtain ⟨-, -, -, rfl⟩ := Bars.insertBar_eq_ok done
    exact ⟨List.prefix_append _ _, List.prefix_rfl⟩
  | update tx key row =>
    rw [Archive.write, bind_eq_ok_iff] at h
    obtain ⟨⟨stored, t⟩, done, h⟩ := h
    cases h
    rcases Bars.updateBar_eq_ok done with ⟨rfl, rfl⟩ | ⟨old, b, -, rfl, -, -, -, -, -, -, -, rfl⟩
    · exact ⟨List.prefix_append _ _, List.prefix_rfl⟩
    · exact ⟨List.prefix_append _ _, List.prefix_rfl⟩
  | receipt tx key versionRecordedAt =>
    rw [Archive.write, bind_eq_ok_iff] at h
    obtain ⟨t, done, h⟩ := h
    cases h
    obtain ⟨-, -, -, rfl⟩ := Bars.insertReceipt_eq_ok done
    exact ⟨List.prefix_rfl, List.prefix_append _ _⟩

theorem keeps_step {s t : FactorStore} (step : FactorStep runtime decodePayload s t) : Keeps s t := by
  cases step with
  | bars hStep =>
    obtain ⟨hWritten, hReceipts⟩ := keeps_of_barStep hStep
    exact ⟨hWritten, hReceipts, List.prefix_rfl, List.prefix_rfl, fun _ _ => rfl⟩
  | @publish call factorSetId factors hPublish =>
    obtain ⟨payload, content, -, -, hId, -, -, -, hStored⟩ := publishAdjustmentFactorSet_eq_ok hPublish
    obtain ⟨-, -, -, -, rfl | ⟨hNew, -, rfl⟩⟩ := storeFactorSet_eq_ok hStored
    · exact Keeps.refl s
    · refine ⟨List.prefix_rfl, List.prefix_rfl, List.prefix_append _ _, List.prefix_rfl, fun header hMem => ?_⟩
      -- The new entries belong to a set that was not there.
      have hOther : ∀ e ∈ (payloadEntries factorSetId payload).map (fun e => FactorEntry.mk e call.tx.txid),
          ¬ decide (e.factorSetId = header.factorSetId) = true := by
        intro e he hSame
        obtain ⟨entry, hEntry, rfl⟩ := List.mem_map.mp he
        rw [decide_eq_true_eq] at hSame
        exact hNew header hMem (hSame.symm.trans ((payloadEntries_id hEntry).trans hId.symm))
      rw [FactorTables.entriesOf, List.filter_append, List.filter_eq_nil_iff.mpr hOther, List.append_nil]
      rfl
  | receipt tx factorSetId hReceipt =>
    obtain ⟨header, -, -, -, rfl | ⟨-, rfl⟩⟩ := publishAdjustmentFactorSetReceipt_eq_ok hReceipt
    · exact Keeps.refl s
    · exact ⟨List.prefix_rfl, List.prefix_rfl, List.prefix_rfl, List.prefix_append _ _, fun _ _ => rfl⟩

theorem keeps_run {s t : FactorStore} (run : ReflTransGen (FactorStep runtime decodePayload) s t) : Keeps s t := by
  induction run with
  | refl => exact Keeps.refl s
  | tail _ step ih => exact ih.trans (keeps_step step)

/-! ## The invariant -/

structure FactorsSound (s : FactorStore) : Prop where
  archived : Archived s.archive
  once : (s.factors.headers.map fun header => header.factorSetId).Nodup
  receipted : ∀ e ∈ s.factors.entries, exactReceipt s.archive.tables e.toFactorEntryContent ∧ e.Checks
  owned : ∀ e ∈ s.factors.entries, ∃ header ∈ s.factors.headers, header.factorSetId = e.factorSetId
  whole : ∀ header ∈ s.factors.headers,
    (s.factors.entriesOf header.factorSetId).map (fun e => e.ordinal) = List.range header.inputCount

theorem factorsSound_empty : FactorsSound FactorStore.empty where
  archived := Bars.archived_empty
  once := List.nodup_nil
  receipted _ h := absurd h List.not_mem_nil
  owned _ h := absurd h List.not_mem_nil
  whole _ h := absurd h List.not_mem_nil

theorem exactReceipt_of_grown {t t' : BarTables} {e : FactorEntryContent} (h : exactReceipt t e)
    (later : t.receipts <+: t'.receipts) : exactReceipt t' e := by
  obtain ⟨r, hMem, hSame⟩ := h
  exact ⟨r, later.subset hMem, hSame⟩

/-- The entries of a set that was just stored are those of its payload. -/
theorem entriesOf_published {f : FactorTables} {content : FactorSetContent} {factorSetId : String}
    (owned : ∀ e ∈ f.entries, ∃ header ∈ f.headers, header.factorSetId = e.factorSetId)
    (new : ∀ header ∈ f.headers, header.factorSetId ≠ content.factorSetId)
    (hId : content.factorSetId = factorSetId) (tx : DbCall) (payload : FactorPayload) :
    FactorTables.entriesOf ⟨f.headers ++ [⟨content, tx.clock, tx.txid⟩],
        f.entries ++ (payloadEntries factorSetId payload).map fun e => ⟨e, tx.txid⟩, f.receipts⟩ content.factorSetId =
      (payloadEntries factorSetId payload).map fun e => ⟨e, tx.txid⟩ := by
  have hNone : ∀ e ∈ f.entries, ¬ decide (e.factorSetId = content.factorSetId) = true := by
    intro e he hSame
    obtain ⟨header, hHeader, hOwner⟩ := owned e he
    exact new header hHeader (hOwner.trans (of_decide_eq_true hSame))
  have hOwn : ∀ e ∈ (payloadEntries factorSetId payload).map (fun e => FactorEntry.mk e tx.txid),
      decide (e.factorSetId = content.factorSetId) = true := by
    intro e he
    obtain ⟨entry, hEntry, rfl⟩ := List.mem_map.mp he
    exact decide_eq_true ((payloadEntries_id hEntry).trans hId.symm)
  rw [FactorTables.entriesOf, List.filter_append, List.filter_eq_nil_iff.mpr hNone, List.nil_append,
    List.filter_eq_self.mpr hOwn]

theorem factorsSound_step (s t : FactorStore) (sound : FactorsSound s)
    (step : FactorStep runtime decodePayload s t) : FactorsSound t := by
  cases step with
  | bars hStep =>
    refine ⟨Bars.archived_step _ _ sound.archived hStep, sound.once, fun e he => ?_, sound.owned, sound.whole⟩
    obtain ⟨hReceipt, hChecks⟩ := sound.receipted e he
    exact ⟨exactReceipt_of_grown hReceipt (keeps_of_barStep hStep).2, hChecks⟩
  | @publish call factorSetId factors hPublish =>
    have hKeeps := keeps_step (FactorStep.publish call hPublish)
    obtain ⟨payload, content, -, -, hId, -, hCount, hLengths, hStored⟩ := publishAdjustmentFactorSet_eq_ok hPublish
    obtain ⟨-, -, hStoredCount, -, rfl | ⟨hNew, hAll, rfl⟩⟩ := storeFactorSet_eq_ok hStored
    · exact sound
    · constructor
      case archived => exact sound.archived
      case once =>
        rw [List.map_append, List.nodup_append]
        refine ⟨sound.once, List.nodup_singleton _, fun id hOld id' hIn hSame => ?_⟩
        obtain ⟨header, hMem, rfl⟩ := List.mem_map.mp hOld
        rw [List.map_singleton, List.mem_singleton] at hIn
        exact hNew header hMem (hSame.trans hIn)
      case receipted =>
        intro e he
        rcases List.mem_append.mp he with he | he
        · exact sound.receipted e he
        · obtain ⟨entry, hEntry, rfl⟩ := List.mem_map.mp he
          exact hAll entry hEntry
      case owned =>
        intro e he
        rcases List.mem_append.mp he with he | he
        · obtain ⟨header, hMem, hSame⟩ := sound.owned e he
          exact ⟨header, List.mem_append_left _ hMem, hSame⟩
        · obtain ⟨entry, hEntry, rfl⟩ := List.mem_map.mp he
          exact ⟨_, List.mem_append_right _ (List.mem_singleton_self _), hId.trans (payloadEntries_id hEntry).symm⟩
      case whole =>
        intro header hMem
        rcases List.mem_append.mp hMem with hMem | hMem
        · rw [hKeeps.entries header hMem]
          exact sound.whole header hMem
        · rw [List.mem_singleton] at hMem
          subst hMem
          have hEntries := entriesOf_published sound.owned hNew hId call.tx payload
          have hLength : (payloadEntries factorSetId payload).length = content.inputCount := by
            rw [payloadEntries, List.length_map, List.length_zipIdx, List.length_zip, hLengths, Nat.min_self, hCount]
          rw [hEntries, List.map_map, ← hLength]
          exact payloadEntries_ordinals factorSetId payload
  | receipt tx factorSetId hReceipt =>
    obtain ⟨header, -, -, -, rfl | ⟨-, rfl⟩⟩ := publishAdjustmentFactorSetReceipt_eq_ok hReceipt
    · exact sound
    · exact ⟨sound.archived, sound.once, sound.receipted, sound.owned, sound.whole⟩

/-- A header meets its constraints, by which it is the content address of a payload, and its entries are those of
the payload. -/
def Addressed (runtime : Runtime) (decodePayload : Bytes → Except SqlError FactorPayload) (f : FactorTables) : Prop :=
  ∀ header ∈ f.headers, header.Checks runtime.sha256 ∧
    ∃ payload, decodePayload header.canonicalPayload = .ok payload ∧
      (f.entriesOf header.factorSetId).map FactorEntry.toFactorEntryContent =
        payloadEntries header.factorSetId payload

theorem addressed_step (s t : FactorStore) (inv : FactorsSound s ∧ Addressed runtime decodePayload s.factors)
    (step : FactorStep runtime decodePayload s t) : FactorsSound t ∧ Addressed runtime decodePayload t.factors := by
  obtain ⟨sound, addressed⟩ := inv
  refine ⟨factorsSound_step s t sound step, ?_⟩
  have hKeeps := keeps_step step
  have hOld : ∀ header ∈ s.factors.headers, header.Checks runtime.sha256 ∧
        ∃ payload, decodePayload header.canonicalPayload = .ok payload ∧
          (t.factors.entriesOf header.factorSetId).map FactorEntry.toFactorEntryContent =
            payloadEntries header.factorSetId payload := by
    intro header hMem
    rw [hKeeps.entries header hMem]
    exact addressed header hMem
  cases step with
  | bars _ => exact addressed
  | receipt tx factorSetId hReceipt =>
    obtain ⟨found, -, -, -, rfl | ⟨-, rfl⟩⟩ := publishAdjustmentFactorSetReceipt_eq_ok hReceipt
    · exact addressed
    · exact hOld
  | @publish call factorSetId factors hPublish =>
    obtain ⟨payload, content, hPayload, -, hId, hBytes, -, -, hStored⟩ :=
      publishAdjustmentFactorSet_eq_ok hPublish
    obtain ⟨hChecks, -, -, -, rfl | ⟨hNew, -, rfl⟩⟩ := storeFactorSet_eq_ok hStored
    · exact addressed
    · intro header hMem
      rcases List.mem_append.mp hMem with hMem | hMem
      · exact hOld header hMem
      · rw [List.mem_singleton] at hMem
        subst hMem
        have hEntries := entriesOf_published sound.owned hNew hId call.tx payload
        refine ⟨hChecks, payload, ?_, ?_⟩
        · rw [hBytes, hPayload]
        · rw [hEntries, List.map_map, hId]
          exact List.map_id _

theorem factorsSound_of_run {s : FactorStore}
    (run : ReflTransGen (FactorStep runtime decodePayload) FactorStore.empty s) : FactorsSound s :=
  invariant_of_run factorsSound_step run factorsSound_empty

theorem addressed_of_run {s : FactorStore}
    (run : ReflTransGen (FactorStep runtime decodePayload) FactorStore.empty s) :
    Addressed runtime decodePayload s.factors :=
  (invariant_of_run addressed_step run ⟨factorsSound_empty, fun _ h => absurd h List.not_mem_nil⟩).2

end StockApi.Adjustment

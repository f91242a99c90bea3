import StockApi.Adjustment.EvidenceAgreement
import StockApi.Prices.ExactVersions

/-!
# Published factor sets over whole runs

What every later reader of the factor tables can rely on, and what the publisher takes from the bars.
-/

namespace StockApi.Adjustment

open Checked CivilTime Relational Text Relation
open Bars (Archive FactorSpecArgument LaterStep SymbolText factorRawInputs restatedSession sessionArchive
  sessionArchive_run sessionRestatement validateFactorSpec)
open Prices (factorRuntime restated_run sampleBytes sampleCall sampleDecode sampleFactors sampleHeader samplePayload
  sampleSetId sample_publish sample_run tick)

section Runs

variable {runtime : Runtime} {decodePayload : Bytes → Except SqlError FactorPayload}

/-- A published set meets the constraints of its table, is stored under the address of its bytes and under no other,
and for ever its entries are those of the decoded payload, each of them for a receipted version of the bars and within
the constraints of its table. -/
theorem published_sets_are_kept {s t : FactorStore}
    (run : ReflTransGen (FactorStep runtime decodePayload) FactorStore.empty s)
    (later : ReflTransGen (FactorStep runtime decodePayload) s t) :
    (t.factors.headers.map fun header => header.factorSetId).Nodup ∧
    ∀ header ∈ s.factors.headers, header ∈ t.factors.headers ∧ header.Checks runtime.sha256 ∧
      header.factorSetId = "sha256:" ++ runtime.sha256 header.canonicalPayload ∧
      (∃ payload, decodePayload header.canonicalPayload = .ok payload ∧
        (t.factors.entriesOf header.factorSetId).map FactorEntry.toFactorEntryContent =
          payloadEntries header.factorSetId payload) ∧
      ∀ e ∈ t.factors.entriesOf header.factorSetId, exactReceipt t.archive.tables e.toFactorEntryContent ∧
        e.Checks := by
  have hRun := run.trans later
  have hSound := factorsSound_of_run hRun
  refine ⟨hSound.once, fun header hMem => ?_⟩
  have hLater := (keeps_run later).headers.subset hMem
  obtain ⟨hChecks, hPayload⟩ := addressed_of_run hRun header hLater
  exact ⟨hLater, hChecks, hChecks.2.2.2.1, hPayload, fun e he => hSound.receipted e (List.mem_filter.mp he).1⟩

theorem published_sets_are_kept_restated :
    sampleHeader ∈ sampleFactors.headers ∧ sampleHeader.Checks factorRuntime.sha256 ∧
      ∀ e ∈ sampleFactors.entriesOf sampleHeader.factorSetId,
        exactReceipt restatedSession.tables e.toFactorEntryContent ∧ e.Checks := by
  obtain ⟨hMem, hChecks, -, -, hEntries⟩ :=
    (published_sets_are_kept sample_run restated_run).2 sampleHeader (List.mem_singleton_self _)
  exact ⟨hMem, hChecks, hEntries⟩

/-- Whatever happened since, publishing the bytes of a stored set is refused or stores nothing. -/
theorem publication_repeated {call again : FactorCall} {s t : FactorStore} {factorSetId : String}
    {factors : FactorTables}
    (published : publishAdjustmentFactorSet runtime decodePayload call s.archive.tables s.factors =
      .ok (factorSetId, factors))
    (later : ReflTransGen (FactorStep runtime decodePayload) ⟨s.archive, factors⟩ t)
    (same : again.payloadBytes = call.payloadBytes) {outcome : String × FactorTables}
    (done : publishAdjustmentFactorSet runtime decodePayload again t.archive.tables t.factors = .ok outcome) :
    outcome = (factorSetId, t.factors) := by
  obtain ⟨payload, content, -, hAddress, hId, -, -, -, hStored⟩ := publishAdjustmentFactorSet_eq_ok published
  obtain ⟨-, ⟨header, hMem, rfl⟩, -, -, -⟩ := storeFactorSet_eq_ok hStored
  obtain ⟨payload', content', -, hAddress', hId', -, -, -, hStored'⟩ := publishAdjustmentFactorSet_eq_ok done
  have hSameId : outcome.1 = factorSetId := by rw [hAddress', same, ← hAddress]
  obtain ⟨-, -, -, -, hKept | ⟨hNew, -, -⟩⟩ := storeFactorSet_eq_ok hStored'
  · exact Prod.ext hSameId hKept
  · exact absurd (hId.trans (hSameId.symm.trans hId'.symm)) (hNew header ((keeps_run later).headers.subset hMem))

theorem publication_repeated_restated : ∃ outcome,
    publishAdjustmentFactorSet factorRuntime sampleDecode sampleCall restatedSession.tables sampleFactors =
      .ok outcome ∧
      outcome = (sampleSetId, sampleFactors) := by
  have hAgain : publishAdjustmentFactorSet factorRuntime sampleDecode sampleCall restatedSession.tables sampleFactors =
      .ok (sampleSetId, sampleFactors) := by decide +kernel
  exact ⟨_, hAgain, publication_repeated (s := ⟨sessionArchive, ⟨[], [], []⟩⟩) sample_publish restated_run rfl hAgain⟩

end Runs

section Evidence

variable {runtime : Runtime} {a b : Archive} {payload : FactorPayload} {start stop : Date}

/-- The specification of the window of a payload. -/
def payloadArgument (payload : FactorPayload) (start stop : Date) : FactorSpecArgument :=
  ⟨payload.symbol, start, stop, payload.cutoff.inUtc⟩

theorem spec_of_payloadArgument {text : SymbolText} {spec : Bars.AdjustmentFactorBuildSpec}
    (h : validateFactorSpec text (payloadArgument payload start stop) = .ok spec) :
    spec = payloadSpec payload start stop := by
  obtain ⟨⟨hSymbol, -⟩, ⟨hStart, hStop⟩, -, hCutoff⟩ := Bars.validateFactorSpec_eq_ok_iff.mp h
  obtain ⟨symbol, coverageStart, coverageEnd, cutoff⟩ := spec
  simp only [payloadArgument, Instant.toInstant_inUtc, Option.some.injEq] at hSymbol hStart hStop hCutoff
  rw [payloadSpec, hSymbol, hStart, hStop, hCutoff]

/-- For a window that the builder accepts, the publisher accepts the rows of a payload against the stored bars exactly
when they are the rows the builder selects for the window and the cutoff of the payload; and it goes on to do so
whatever is written later. -/
theorem publisher_accepts_builder_rows {text : SymbolText} {spec : Bars.AdjustmentFactorBuildSpec}
    (run : ReflTransGen Bars.BarStep Archive.empty a)
    (later : ReflTransGen (LaterStep payload.cutoff.micros) a b)
    (root : validateFactorRoot payload = .ok PUnit.unit)
    (checked : ∀ item ∈ payloadRows payload, validatePayloadRow payload.cutoff item = .ok PUnit.unit)
    (hStart : coverageStart payload = some start) (hStop : coverageEnd payload = some stop)
    (valid : validateFactorSpec text (payloadArgument payload start stop) = .ok spec) :
    ∃ rows, factorRawInputs text (payloadArgument payload start stop) a.tables = .ok rows ∧
      (((∀ raw ∈ payload.rawInputs, validateStoredRow runtime b.tables payload raw = .ok PUnit.unit) ∧
          validateCompleteRows b.tables payload start stop = .ok PUnit.unit) ↔
        payload.rawInputs.map PayloadRawInput.selection = rows.map (factorSelection runtime)) := by
  have inv := Bars.archived_of_run run
  obtain rfl := spec_of_payloadArgument valid
  have hWithin := Bars.within_run (payloadSpec payload start stop).Covers later
  have inv' := Bars.archived_later inv hWithin
  have ordered := ordered_of_checked (lengths_of_root root) checked
  refine ⟨_, Bars.factorRawInputs_of_valid valid a.tables, ?_⟩
  rw [← Bars.orderedFactorRows_later inv hWithin]
  exact ⟨fun h => selection_of_stored inv' ordered hStart hStop h.1 h.2,
    stored_of_selection inv' ordered hStart hStop⟩

theorem publisher_accepts_builder_rows_restated : ∃ rows,
    factorRawInputs Bars.upperText (payloadArgument samplePayload (tick 0).date (tick 0).date) sessionArchive.tables =
        .ok rows ∧
      samplePayload.rawInputs.map PayloadRawInput.selection = rows.map (factorSelection factorRuntime) := by
  have hLater : ReflTransGen (LaterStep samplePayload.cutoff.micros) sessionArchive restatedSession :=
    .single ⟨sessionRestatement, by decide, Bars.restatedSession_write⟩
  have hRoot : validateFactorRoot samplePayload = .ok (PUnit.unit : PUnit.{1}) := by decide +kernel
  have hChecked : ∀ item ∈ payloadRows samplePayload,
      validatePayloadRow samplePayload.cutoff item = .ok (PUnit.unit : PUnit.{1}) := by decide +kernel
  have hStored : (∀ raw ∈ samplePayload.rawInputs,
      validateStoredRow factorRuntime restatedSession.tables samplePayload raw = .ok (PUnit.unit : PUnit.{1})) ∧
      validateCompleteRows restatedSession.tables samplePayload (tick 0).date (tick 0).date =
        .ok (PUnit.unit : PUnit.{1}) := by decide +kernel
  have hValid : validateFactorSpec Bars.upperText (payloadArgument samplePayload (tick 0).date (tick 0).date) =
      .ok (payloadSpec samplePayload (tick 0).date (tick 0).date) := by
    refine Bars.validateFactorSpec_eq_ok_iff.mpr
      ⟨⟨rfl, rfl, ?_, ?_⟩, ⟨rfl, rfl⟩, ?_, Instant.toInstant_inUtc samplePayload.cutoff⟩
    all_goals decide +kernel
  obtain ⟨rows, hRows, hIff⟩ := @publisher_accepts_builder_rows factorRuntime _ _ _ _ _ _ _ sessionArchive_run
    hLater hRoot hChecked rfl rfl hValid
  exact ⟨rows, hRows, hIff.mp hStored⟩

end Evidence

end StockApi.Adjustment

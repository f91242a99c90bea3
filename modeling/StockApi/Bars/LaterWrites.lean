import StockApi.Bars.Agreement

/-!
# Writes after a cutoff

Whatever is written once the clock has passed a cutoff, no statement with that cutoff ever returns anything else:
a new version has no receipt, and a new receipt is stamped too late.
-/

namespace StockApi.Bars

open Checked CivilTime Relational VersionChain Relation

def BarWrite.tx : BarWrite → DbCall
  | .insert tx _ => tx
  | .update tx _ _ => tx
  | .receipt tx _ _ => tx

def BarWrite.key : BarWrite → BarKey
  | .insert _ row => row.key
  | .update _ key _ => key
  | .receipt _ key _ => key

/-- A write by a transaction whose clock reads later than the cutoff. -/
def LaterStep (cutoff : Int) (a b : Archive) : Prop := ∃ w : BarWrite, cutoff < w.tx.clock ∧ a.write w = .ok b

/-- A write to one of these keys is later than the cutoff. -/
def LaterWithin (keys : BarKey → Prop) (cutoff : Int) (a b : Archive) : Prop :=
  ∃ w : BarWrite, (keys w.key → cutoff < w.tx.clock) ∧ a.write w = .ok b

theorem LaterStep.within {keys : BarKey → Prop} {cutoff : Int} {a b : Archive} (h : LaterStep cutoff a b) :
    LaterWithin keys cutoff a b := by
  obtain ⟨w, hLater, hWrite⟩ := h
  exact ⟨w, fun _ => hLater, hWrite⟩

theorem LaterWithin.step {keys : BarKey → Prop} {cutoff : Int} {a b : Archive} (h : LaterWithin keys cutoff a b) :
    BarStep a b := by
  obtain ⟨w, -, hWrite⟩ := h
  exact ⟨w, hWrite⟩

/-- Two archives show the same of these keys at a cutoff. -/
structure SameAt (keys : BarKey → Prop) (cutoff : Int) (a b : Archive) : Prop where
  receiptBy : ∀ v, keys v.key → b.tables.receiptBy cutoff v = a.tables.receiptBy cutoff v
  newestVisible : ∀ k, keys k → b.newestVisible k cutoff = a.newestVisible k cutoff

section Same

variable {keys : BarKey → Prop} {cutoff : Int} {a b c : Archive}

theorem SameAt.refl (a : Archive) : SameAt keys cutoff a a := ⟨fun _ _ => rfl, fun _ _ => rfl⟩

theorem SameAt.trans (h : SameAt keys cutoff a b) (h' : SameAt keys cutoff b c) : SameAt keys cutoff a c where
  receiptBy v hv := (h'.receiptBy v hv).trans (h.receiptBy v hv)
  newestVisible k hk := (h'.newestVisible k hk).trans (h.newestVisible k hk)

theorem SameAt.newestRow (inv : Archived a) (h : SameAt keys cutoff a b) {π : Type} (project : Bar → π) {k : BarKey}
    (hk : keys k) : b.newestRow project k cutoff = a.newestRow project k cutoff := by
  rw [Archive.newestRow, Archive.newestRow, h.newestVisible k hk]
  cases hNewest : a.newestVisible k cutoff with
  | none => rfl
  | some v =>
    obtain ⟨⟨hLane, -⟩, -⟩ := (newest_eq_some_iff (inv.chain k)).mp hNewest
    have hKey := (Archive.mem_lane_iff.mp hLane).2
    rw [Option.bind_some, Option.bind_some, visibleRow, visibleRow, h.receiptBy v (hKey ▸ hk)]

/-- A version that was just written has no receipt. -/
theorem receiptBy_written {v : Bar} {t : BarTables} (inv : Archived a) (inv' : Archived ⟨t, a.written ++ [v]⟩) :
    a.tables.receiptBy cutoff v = none := by
  by_contra hSome
  obtain ⟨r, hr⟩ := Option.ne_none_iff_exists'.mp hSome
  obtain ⟨hReceipt, hKey, hRecorded, -⟩ := BarTables.receiptBy_eq_some hr
  obtain ⟨-, w, hWritten, hwKey, hwRecorded⟩ := inv.receipted r hReceipt
  have hSplit : (Archive.mk t (a.written ++ [v])).lane v.key = a.lane v.key ++ [v] := by
    rw [Archive.lane, Archive.lane, List.filter_append, List.filter_singleton, decide_eq_true rfl]
    rfl
  have hChain := inv'.chain v.key
  rw [hSplit, Chain, List.pairwise_append] at hChain
  have hLess := hChain.2.2 w (Archive.mem_lane_iff.mpr ⟨hWritten, hwKey.trans hKey⟩) v (List.mem_singleton_self v)
  exact hLess.ne (hwRecorded.trans hRecorded)

/-- Versions without a receipt change nothing. -/
theorem sameAt_of_written {more : List Bar} {t : BarTables} (receipts : t.receipts = a.tables.receipts)
    (hidden : ∀ v ∈ more, a.tables.receiptBy cutoff v = none) : SameAt keys cutoff a ⟨t, a.written ++ more⟩ := by
  have hReceipts : t.receiptBy cutoff = a.tables.receiptBy cutoff :=
    funext fun v => by rw [BarTables.receiptBy, BarTables.receiptBy, receipts]
  refine ⟨fun v _ => by rw [hReceipts], fun k _ => ?_⟩
  rw [Archive.newestVisible, Archive.newestVisible, Archive.lane, List.filter_append, hReceipts]
  refine newest_append_hidden fun v hv => ?_
  rw [hidden v (List.mem_filter.mp hv).1]
  rfl

/-- A receipt that is stamped too late changes nothing. -/
theorem sameAt_of_receipt {r : Receipt} (late : keys r.key → cutoff < r.availableAt) :
    SameAt keys cutoff a ⟨{ a.tables with receipts := a.tables.receipts ++ [r] }, a.written⟩ := by
  have hReceipts : ∀ v : Bar, keys v.key →
      ({ a.tables with receipts := a.tables.receipts ++ [r] } : BarTables).receiptBy cutoff v =
        a.tables.receiptBy cutoff v := by
    intro v hv
    rw [BarTables.receiptBy, BarTables.receiptBy, List.find?_append]
    have hLate : [r].find? (fun r => decide (r.key = v.key ∧ r.versionRecordedAt = v.recordedAt ∧
        r.availableAt ≤ cutoff)) = none := by
      rw [List.find?_singleton, if_neg]
      simp only [decide_eq_true_eq]
      rintro ⟨hKey, -, hTime⟩
      exact absurd hTime (not_le.mpr (late (hKey ▸ hv)))
    rw [hLate, Option.or_none]
  refine ⟨hReceipts, fun k hk => newest_congr fun v hv => ?_⟩
  rw [hReceipts v ((Archive.mem_lane_iff.mp hv).2 ▸ hk)]

theorem sameAt_step (inv : Archived a) (step : LaterWithin keys cutoff a b) : SameAt keys cutoff a b := by
  have inv' := archived_step a b inv step.step
  obtain ⟨w, hLater, h⟩ := step
  cases w with
  | insert tx row =>
    rw [Archive.write, bind_eq_ok_iff] at h
    obtain ⟨⟨stored, t⟩, done, h⟩ := h
    cases h
    obtain ⟨-, -, -, rfl⟩ := insertBar_eq_ok done
    refine sameAt_of_written rfl fun v hv => ?_
    rw [List.mem_singleton] at hv
    subst hv
    exact receiptBy_written inv inv'
  | update tx key row =>
    rw [Archive.write, bind_eq_ok_iff] at h
    obtain ⟨⟨stored, t⟩, done, h⟩ := h
    cases h
    rcases updateBar_eq_ok done with ⟨rfl, rfl⟩ | ⟨old, v, -, rfl, -, -, -, -, -, -, -, rfl⟩
    · exact sameAt_of_written rfl fun v hv => absurd hv List.not_mem_nil
    · refine sameAt_of_written rfl fun w hw => ?_
      rw [Option.toList_some, List.mem_singleton] at hw
      subst hw
      exact receiptBy_written inv inv'
  | receipt tx key versionRecordedAt =>
    rw [Archive.write, bind_eq_ok_iff] at h
    obtain ⟨t, done, h⟩ := h
    cases h
    obtain ⟨-, -, -, rfl⟩ := insertReceipt_eq_ok done
    exact sameAt_of_receipt hLater

theorem archived_later (inv : Archived a) (run : ReflTransGen (LaterWithin keys cutoff) a b) : Archived b :=
  invariant_of_run (fun a b inv h => archived_step a b inv h.step) run inv

theorem sameAt_run (inv : Archived a) (run : ReflTransGen (LaterWithin keys cutoff) a b) : SameAt keys cutoff a b := by
  induction run with
  | refl => exact SameAt.refl a
  | tail before step ih =>
    exact ih.trans (sameAt_step (archived_later inv before) step)

/-- Where every write is later, so are those to the keys. -/
theorem within_run (keys : BarKey → Prop) (run : ReflTransGen (LaterStep cutoff) a b) :
    ReflTransGen (LaterWithin keys cutoff) a b :=
  run.lift id fun _ _ h => h.within

end Same

/-! ## The statements -/

section Statements

variable {a b : Archive} {spec : AdjustmentFactorBuildSpec}

theorem Archived.factorSessions_nodup (inv : Archived a) :
    ((rowNumberOne (fun r => r.version.key.ts) factorOrder (factorBarVersions spec a.tables)).map
      fun r => r.version.key.ts).Nodup :=
  List.Nodup.map_on (fun _ hx _ hy hSame => eq_of_mem_rowNumberOne hx hy hSame)
    (rowNumberOne_nodup inv.factorBarVersions_nodup)

/-- The rows of the factor statement are in the order of their sessions. -/
theorem Archived.orderedFactorRows_strict (inv : Archived a) :
    (orderedFactorRows spec a.tables).Pairwise fun x y => x.chosen.version.key.ts < y.chosen.version.key.ts := by
  rw [orderedFactorRows, List.pairwise_map]
  exact orderAsc_strict inv.factorSessions_nodup

theorem orderedFactorRows_later (inv : Archived a) (later : ReflTransGen
    (LaterWithin spec.Covers spec.cutoff.micros) a b) :
    orderedFactorRows spec b.tables = orderedFactorRows spec a.tables := by
  have inv' := archived_later inv later
  have same := sameAt_run inv later
  refine eq_of_mem_iff_of_strict (fun row : FactorRow => row.chosen.version.key.ts)
    inv'.orderedFactorRows_strict inv.orderedFactorRows_strict fun row => ?_
  rw [inv.mem_orderedFactorRows_iff, inv'.mem_orderedFactorRows_iff]
  refine and_congr_right fun _ => and_congr_right fun covers => ?_
  rw [same.newestRow inv _ covers]

theorem Archived.rankedSessions_unique {spec : SnapshotBuildSpec} {policy : ForecastSnapshotBuildPolicy} :
    ∀ x ∈ rankedBarVersions spec policy a.tables, ∀ y ∈ rankedBarVersions spec policy a.tables,
      x.version.key.ts = y.version.key.ts → x = y :=
  fun _ hx _ hy hSame => eq_of_mem_rowNumberOne hx hy hSame

theorem limitedBarVersions_later {spec : SnapshotBuildSpec} {policy : ForecastSnapshotBuildPolicy} (inv : Archived a)
    (later : ReflTransGen (LaterWithin (policy.InSeries spec.symbol) spec.asOf.micros) a b) :
    limitedBarVersions spec policy b.tables = limitedBarVersions spec policy a.tables := by
  have inv' := archived_later inv later
  have same := sameAt_run inv later
  have hPerm : (rankedBarVersions spec policy b.tables).Perm (rankedBarVersions spec policy a.tables) := by
    refine (List.perm_ext_iff_of_nodup (rowNumberOne_nodup inv'.finalizedBarVersions_nodup)
      (rowNumberOne_nodup inv.finalizedBarVersions_nodup)).mpr fun row => ?_
    refine inv'.mem_rankedBarVersions_iff.trans (Iff.trans ?_ inv.mem_rankedBarVersions_iff.symm)
    refine and_congr_right fun series => ?_
    rw [same.newestRow inv _ series]
  rw [limitedBarVersions, limitedBarVersions, orderDesc_eq_of_perm hPerm
    (rowNumberOne_nodup inv'.finalizedBarVersions_nodup) Archived.rankedSessions_unique]

/-- Once the clock has passed a cutoff, whatever is written, the three statements return for that cutoff what they
returned. -/
theorem point_in_time_reads_unchanged {cutoff : Int} (run : ReflTransGen BarStep Archive.empty a)
    (later : ReflTransGen (LaterStep cutoff) a b) :
    (∀ request : OutcomeResolutionRequest, request.resolutionCutoff = cutoff →
      exactBarVersion request b.tables = exactBarVersion request a.tables) ∧
    (∀ (text : SymbolText) (arg : FactorSpecArgument),
      (∀ spec, validateFactorSpec text arg = .ok spec → spec.cutoff.micros = cutoff) →
      factorRawInputs text arg b.tables = factorRawInputs text arg a.tables) ∧
    ∀ (text : SymbolText) (arg : SpecArgument) (policy : ForecastSnapshotBuildPolicy),
      (∀ spec, policy.validateSpec text arg = .ok spec → spec.asOf.micros = cutoff) →
      pointInTimeBars text arg policy b.tables = pointInTimeBars text arg policy a.tables := by
  have inv := archived_of_run run
  refine ⟨?_, ?_, ?_⟩
  · rintro request rfl
    have hWithin := within_run (fun k => k = request.key) later
    rw [inv.exactBarVersion_eq, (archived_later inv hWithin).exactBarVersion_eq,
      (sameAt_run inv hWithin).newestRow inv _ rfl]
  · intro text arg hCutoff
    cases valid : validateFactorSpec text arg with
    | error e => rw [factorRawInputs, factorRawInputs, valid]; rfl
    | ok spec =>
      obtain rfl := hCutoff spec valid
      rw [factorRawInputs_of_valid valid, factorRawInputs_of_valid valid,
        orderedFactorRows_later inv (within_run _ later)]
  · intro text arg policy hCutoff
    cases valid : policy.validateSpec text arg with
    | error e => rw [pointInTimeBars, pointInTimeBars, valid]; rfl
    | ok spec =>
      obtain rfl := hCutoff spec valid
      rw [pointInTimeBars_of_valid valid, pointInTimeBars_of_valid valid,
        limitedBarVersions_later inv (within_run _ later)]

end Statements

/-- The bar before it is restated. -/
def firstArchive : Archive :=
  let first := stampInsert ⟨2, 7⟩ (restatedRow 5 1)
  ⟨⟨[first], [], [⟨restatedKey, 2, 3⟩]⟩, [first]⟩

theorem firstArchive_run : ReflTransGen BarStep Archive.empty firstArchive :=
  run_of_writes (show (restatedWrites.take 2).foldlM Archive.write Archive.empty = _ by decide)

theorem firstArchive_later : ReflTransGen (LaterStep 4) firstArchive restatedArchive := by
  have hUpdate : ∃ b, firstArchive.write (.update ⟨5, 9⟩ restatedKey (restatedRow 6 4)) = .ok b ∧
      b.write (.receipt ⟨7, 10⟩ restatedKey 5) = .ok restatedArchive := ⟨_, rfl, by decide⟩
  obtain ⟨b, hFirst, hSecond⟩ := hUpdate
  exact .tail (.single ⟨_, by decide, hFirst⟩) ⟨_, by decide, hSecond⟩

theorem point_in_time_reads_unchanged_restated :
    pointInTimeBars upperText (spyArgument 4 (by decide)) defaultSnapshotBuildPolicy restatedArchive.tables =
      pointInTimeBars upperText (spyArgument 4 (by decide)) defaultSnapshotBuildPolicy firstArchive.tables := by
  refine (point_in_time_reads_unchanged firstArchive_run firstArchive_later).2.2 _ _ _ fun spec valid => ?_
  obtain rfl := Except.ok.inj ((validateSpec_spy 4 (by decide)).symm.trans valid)
  rfl

end StockApi.Bars

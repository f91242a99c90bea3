import StockApi.Evidence.CanonicalText

/-!
# What the registry reads

The conditions of `stamp_forecast_selection_policy` on a document, gathered, and the values that they
leave in its fields.
-/

namespace StockApi.Evidence

open Checked CivilTime Documents Jsonb JsonText Postgres Relational Text

variable {pg : Postgres}

/-- The document passes every check, and its arrays, windows and epoch have these values. -/
structure Reads (document : Value) (steps coverages : List Nat) (symbols : List String)
    (fit heldout : Window) (epoch : Epoch) : Prop where
  envelope : EnvelopeSupported (some document)
  study : StudySupported (get (some document) "study")
  arrays : StudyArraysBounded (get (some document) "study")
  hasSteps : (elements (get (get (some document) "study") "selected_steps")).mapM
    (fun item => digitsOf 3 (some item)) = some steps
  hasCoverages : (elements (get (get (some document) "study") "interval_coverages_millis")).mapM
    (fun item => digitsOf 3 (some item)) = some coverages
  hasSymbols : (elements (get (get (some document) "study") "symbols")).mapM symbolOf = some symbols
  ordered : StudyOrdered ((digitsOf 3 (get (get (some document) "study") "horizon")).getD 0)
    ((digitsOf 8 (get (some document) "minimum_seal_lead_seconds")).getD 0) steps coverages symbols
  windows : WindowsSupported (get (some document) "windows")
  hasFit : ∃ t, windowTextOf (get (get (some document) "windows") "fit") = some t ∧ t.cast = some fit
  hasHeldout : ∃ t, windowTextOf (get (get (some document) "windows") "heldout") = some t ∧
    t.cast = some heldout
  windowsOrdered : WindowsOrdered fit heldout
  hasEpoch : epochOf (get (some document) "policy_epoch") = some epoch
  lag : 1 ≤ epoch.resolutionLagSeconds ∧ epoch.resolutionLagSeconds ≤ 31622400

/-- The columns that the trigger fills in. -/
def stampedColumns (pg : Postgres) (document : Value) (steps : List Nat) (fit heldout : Window)
    (epoch : Epoch) (bytes : Bytes) (clock : Int) (xid : Nat) : SelectionPolicyColumns where
  policyHash := pg.sha256 bytes
  forecastResolutionPolicyHash := epoch.forecastResolutionPolicyHash
  forecastAvailabilityRuleSetHash := epoch.forecastAvailabilityRuleSetHash
  outcomeResolutionPolicyHash := epoch.outcomeResolutionPolicyHash
  outcomeAvailabilityRuleSetHash := epoch.outcomeAvailabilityRuleSetHash
  resolutionLagSeconds := epoch.resolutionLagSeconds
  fitWindowStart := fit.start
  fitWindowEnd := fit.last
  heldoutWindowStart := heldout.start
  heldoutWindowEnd := heldout.last
  minimumFitMemberCount := fit.text.minimumMemberCount
  minimumHeldoutMemberCount := heldout.text.minimumMemberCount
  minimumSealLeadSeconds := (digitsOf 8 (get (some document) "minimum_seal_lead_seconds")).getD 0
  selectedSteps := steps.map fun (s : Nat) => (s : Int)
  canonicalPolicy := bytes
  recordedAt := clock
  creatorXid := xid

theorem stampForecastSelectionPolicy_eq_ok {registered : List (OutcomePolicyRow pg)} {clock : Int}
    {xid : Nat} {bytes : Bytes} {columns : SelectionPolicyColumns} :
    stampForecastSelectionPolicy registered clock xid bytes = .ok columns ↔
      (1 ≤ bytes.length ∧ bytes.length ≤ 262144) ∧ ∃ document, Jsonb.read bytes = some document ∧
        encode (canonicalForecastSelectionJson document) = bytes ∧
        ∃ steps coverages symbols fit heldout epoch,
          Reads document steps coverages symbols fit heldout epoch ∧
          (∃ row ∈ registered, epoch.Names row) ∧
          columns = stampedColumns pg document steps fit heldout epoch bytes clock xid := by
  rw [stampForecastSelectionPolicy, refuseIf_bind_eq_ok_iff, not_not]
  simp only [orRefuse_bind_eq_ok_iff, refuseIf_bind_eq_ok_iff, not_not, ne_eq, pure_eq_ok,
    Except.ok.injEq]
  constructor
  · rintro ⟨hBounds, document, hRead, hEnvelope, hCanonical, hStudy, hArrays, steps, hSteps, coverages,
      hCoverages, symbols, hSymbols, hOrdered, hWindows, fitText, hFitText, heldoutText, hHeldoutText,
      fit, hFit, heldout, hHeldout, hWindowsOrdered, epoch, hEpoch, hLag, hRegistered, rfl⟩
    exact ⟨hBounds, document, hRead, hCanonical, steps, coverages, symbols, fit, heldout, epoch,
      ⟨hEnvelope, hStudy, hArrays, hSteps, hCoverages, hSymbols, hOrdered, hWindows,
        ⟨fitText, hFitText, hFit⟩, ⟨heldoutText, hHeldoutText, hHeldout⟩, hWindowsOrdered, hEpoch,
        hLag⟩, hRegistered, rfl⟩
  · rintro ⟨hBounds, document, hRead, hCanonical, steps, coverages, symbols, fit, heldout, epoch, h,
      hRegistered, rfl⟩
    obtain ⟨fitText, hFitText, hFit⟩ := h.hasFit
    obtain ⟨heldoutText, hHeldoutText, hHeldout⟩ := h.hasHeldout
    exact ⟨hBounds, document, hRead, h.envelope, hCanonical, h.study, h.arrays, steps, h.hasSteps,
      coverages, h.hasCoverages, symbols, h.hasSymbols, h.ordered, h.windows, fitText, hFitText, heldoutText,
      hHeldoutText, fit, hFit, heldout, hHeldout, h.windowsOrdered, epoch, h.hasEpoch, h.lag, hRegistered,
      rfl⟩

/-! ## Numbers -/

theorem number_of_digitsOf {width n : Nat} {value : Option Value} (h : digitsOf width value = some n) :
    value = some (.number (ofInt n)) := by
  rw [digitsOf] at h
  split_ifs at h with hNumber
  obtain ⟨t, hText, hDigits, -, hRead⟩ := boundedNatural_eq_some h
  cases value with
  | none => cases hText
  | some v =>
    obtain ⟨m, rfl, hNatural⟩ := number_of_asText hNumber hText hDigits
    rw [hNatural, read_natural, Option.some.injEq] at hRead
    rw [hRead]

theorem length_natural {width n : Nat} (positive : 0 < width) (h : n < 10 ^ width) :
    (natural n).length ≤ width := by
  obtain ⟨own, hPad, -, hLeast⟩ := naturalFrom_eq_pad (Nat.lt_succ_self n)
  rw [natural, hPad, Digits.length_pad]
  rcases hLeast with rfl | hLeast
  · omega
  · exact (Nat.pow_lt_pow_iff_right (by decide)).mp (hLeast.trans_lt h)

theorem digitsOf_ofInt {width n : Nat} (positive : 0 < width) (h : n < 10 ^ width) :
    digitsOf width (some (.number (ofInt n))) = some n := by
  obtain ⟨own, hPad, -⟩ := naturalFrom_eq_pad (Nat.lt_succ_self n)
  have hDigits : (natural n).all Digits.isDigit = true := by
    rw [natural, hPad]
    exact Digits.all_isDigit_pad _ _
  have hSome : 1 ≤ (natural n).length := by
    rw [natural, hPad, Digits.length_pad]
    omega
  have hText : asText (some (.number (ofInt n))) = some (String.ofList (natural n)) :=
    congrArg some (text_ofInt n)
  have hNumber : isNumber (some (.number (ofInt n))) = true := rfl
  rw [digitsOf, if_pos hNumber, hText, boundedNatural, Option.bind_some, String.length_ofList,
    String.toList_ofList, if_pos ⟨hSome, length_natural positive h, hDigits⟩, read_natural]

theorem eq_map_of_mapM {α β : Type} {f : α → Option β} {g : β → α} (inverse : ∀ x y, f x = some y → x = g y)
    {xs : List α} {ys : List β} (h : xs.mapM f = some ys) : xs = ys.map g := by
  induction xs generalizing ys with
  | nil =>
    cases h
    rfl
  | cons x rest ih =>
    rw [List.mapM_cons] at h
    obtain ⟨y, hy, h⟩ := Option.bind_eq_some_iff.mp h
    obtain ⟨zs, hzs, h⟩ := Option.bind_eq_some_iff.mp h
    cases h
    rw [List.map_cons, ← inverse x y hy, ← ih hzs]

theorem exists_of_mapM {α β : Type} {f : α → Option β} {xs : List α} {ys : List β}
    (h : xs.mapM f = some ys) {y : β} (hy : y ∈ ys) : ∃ x ∈ xs, f x = some y := by
  induction xs generalizing ys with
  | nil =>
    cases h
    cases hy
  | cons x rest ih =>
    rw [List.mapM_cons] at h
    obtain ⟨first, hFirst, h⟩ := Option.bind_eq_some_iff.mp h
    obtain ⟨zs, hzs, h⟩ := Option.bind_eq_some_iff.mp h
    cases h
    rcases List.mem_cons.mp hy with rfl | hRest
    · exact ⟨x, List.mem_cons_self, hFirst⟩
    · obtain ⟨x', hx', hFound⟩ := ih hzs hRest
      exact ⟨x', List.mem_cons_of_mem _ hx', hFound⟩

theorem mapM_map {α β : Type} {f : α → Option β} {g : β → α} {ys : List β}
    (inverse : ∀ y ∈ ys, f (g y) = some y) : (ys.map g).mapM f = some ys := by
  induction ys with
  | nil => rfl
  | cons y rest ih =>
    rw [List.map_cons, List.mapM_cons, inverse y List.mem_cons_self,
      ih fun z hz => inverse z (List.mem_cons_of_mem _ hz)]
    rfl

theorem eq_str_of_symbolOf {value : Value} {s : String} (h : symbolOf value = some s) : value = .str s := by
  cases value with
  | str t =>
    rw [symbolOf] at h
    split_ifs at h
    cases h
    rfl
  | _ => cases h

/-! ## Texts -/

theorem field_of_getText {value : Option Value} {key s : String} (h : getText value key = some s)
    (unparsed : parse s.toList = none) : get value key = some (.str s) := by
  rw [getText] at h
  cases hField : get value key with
  | none =>
    rw [hField] at h
    cases h
  | some v =>
    rw [hField] at h
    rw [str_of_asText h unparsed]

theorem unparsed_of_isHash {s : String} (h : IsHash s) : parse s.toList = none := by
  obtain ⟨hStart, -, -⟩ := h
  have hPlain : s.toList = 's' :: ('h' :: ['a', '2', '5', '6', ':'] ++ s.toList.drop 7) := by
    conv_lhs => rw [← List.take_append_drop 7 s.toList, hStart]
    rfl
  rw [hPlain]
  exact parse_letter _ (by decide) (by decide) (by decide)

theorem unparsed_of_dateFields {s : String} (h : (dateFields s).isSome = true) :
    parse s.toList = none := by
  obtain ⟨fields, hFields⟩ := Option.isSome_iff_exists.mp h
  rw [dateFields] at hFields
  split at hFields
  · rename_i a b c d e f g h hText
    obtain ⟨year, hYear, -⟩ := Option.bind_eq_some_iff.mp hFields
    rw [hText]
    exact parse_date _ hYear
  · cases hFields

/-! ## Objects -/

/-- The fields of a window and its bounds. -/
theorem windowTextOf_eq_some {window : Option Value} {t : WindowText} (h : windowTextOf window = some t) :
    HasKeys window windowKeys ∧ get window "start" = some (.str t.start) ∧
      get window "end" = some (.str t.last) ∧
      get window "minimum_member_count" = some (.number (ofInt t.minimumMemberCount)) := by
  rw [windowTextOf] at h
  split_ifs at h with hKeys
  obtain ⟨count, hCount, h⟩ := Option.bind_eq_some_iff.mp h
  obtain ⟨start, hStart, h⟩ := Option.bind_eq_some_iff.mp h
  obtain ⟨last, hLast, h⟩ := Option.bind_eq_some_iff.mp h
  cases h
  rw [Option.filter_eq_some_iff] at hStart hLast
  exact ⟨hKeys, field_of_getText hStart.1 (unparsed_of_dateFields hStart.2),
    field_of_getText hLast.1 (unparsed_of_dateFields hLast.2), number_of_digitsOf hCount⟩

theorem WindowText.cast_eq_some {t : WindowText} {w : Window} (h : t.cast = some w) : w.text = t := by
  obtain ⟨start, -, h⟩ := Option.bind_eq_some_iff.mp h
  obtain ⟨last, -, h⟩ := Option.bind_eq_some_iff.mp h
  cases h
  rfl

theorem hashOf_eq_some {value : Option Value} {key s : String} (h : hashOf (getText value key) = some s) :
    get value key = some (.str s) ∧ IsHash s := by
  rw [hashOf, Option.filter_eq_some_iff, decide_eq_true_eq] at h
  exact ⟨field_of_getText h.1 (unparsed_of_isHash h.2), h.2⟩

/-- The fields of an epoch. -/
theorem epochOf_eq_some {epoch : Option Value} {e : Epoch} (h : epochOf epoch = some e) :
    HasKeys epoch epochKeys ∧
      (get epoch "forecast_availability_rule_set_hash" = some (.str e.forecastAvailabilityRuleSetHash) ∧
        IsHash e.forecastAvailabilityRuleSetHash) ∧
      (get epoch "forecast_resolution_policy_hash" = some (.str e.forecastResolutionPolicyHash) ∧
        IsHash e.forecastResolutionPolicyHash) ∧
      (get epoch "outcome_availability_rule_set_hash" = some (.str e.outcomeAvailabilityRuleSetHash) ∧
        IsHash e.outcomeAvailabilityRuleSetHash) ∧
      (get epoch "outcome_resolution_policy_hash" = some (.str e.outcomeResolutionPolicyHash) ∧
        IsHash e.outcomeResolutionPolicyHash) ∧
      get epoch "resolution_lag_seconds" = some (.number (ofInt e.resolutionLagSeconds)) := by
  rw [epochOf] at h
  split_ifs at h with hKeys
  obtain ⟨availability, hAvailability, h⟩ := Option.bind_eq_some_iff.mp h
  obtain ⟨resolution, hResolution, h⟩ := Option.bind_eq_some_iff.mp h
  obtain ⟨outcomeAvailability, hOutcomeAvailability, h⟩ := Option.bind_eq_some_iff.mp h
  obtain ⟨outcomeResolution, hOutcomeResolution, h⟩ := Option.bind_eq_some_iff.mp h
  obtain ⟨lag, hLag, h⟩ := Option.bind_eq_some_iff.mp h
  cases h
  exact ⟨hKeys, hashOf_eq_some hAvailability, hashOf_eq_some hResolution,
    hashOf_eq_some hOutcomeAvailability, hashOf_eq_some hOutcomeResolution, number_of_digitsOf hLag⟩

end StockApi.Evidence

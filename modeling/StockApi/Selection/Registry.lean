import StockApi.Evidence.PolicyText
import StockApi.Selection.Agreement

/-!
# The parser and the registry

Whatever bytes the registry accepts are the canonical bytes of a policy, and the canonical bytes of
every policy whose outcome policy is registered are accepted.
-/

namespace StockApi.Selection

open Checked CivilTime Documents Evidence Jsonb JsonText Postgres Text

variable {pg : Postgres} {floats : FloatText}

/-! ## From the registry to the parser -/

section Registered

variable {document : Value} {steps coverages : List Nat} {symbols : List String} {fit heldout : Window}
  {epoch : Epoch}

theorem field_of_isObject {value : Value} (keyed : Keyed value) {key : String}
    (h : isObject (get (some value) key) = true) :
    ∃ field, get (some value) key = some field ∧ Keyed field := by
  cases hGet : get (some value) key with
  | none =>
    rw [hGet] at h
    cases h
  | some field => exact ⟨field, rfl, keyed.get hGet⟩

theorem byKey_window {window : Option Value} {t : WindowText} {w : Window} {x : Value} (keyed : Keyed x)
    (isWindow : window = some x) (h : windowTextOf window = some t) (cast : t.cast = some w)
    (trips : w.RoundTrips) (ordered : w.start ≤ w.last) :
    byKey x = toValue floats (windowDocument ⟨w.start, w.last, ordered⟩ w.text.minimumMemberCount) := by
  subst isWindow
  obtain ⟨hKeys, hStart, hLast, hCount⟩ := windowTextOf_eq_some h
  rw [byKey_object keyed (by decide) hKeys, WindowText.cast_eq_some cast]
  obtain ⟨hStartText, hLastText⟩ := trips
  rw [WindowText.cast_eq_some cast] at hStartText hLastText
  simp only [windowKeys, List.map_cons, List.map_nil, hStart, hLast, hCount, Option.map_some,
    Option.getD_some, byKey_str, byKey_number, windowDocument, toValue, toEntries, Json.plain, hStartText,
    hLastText]

theorem byKey_epoch {value : Option Value} {x : Value} (keyed : Keyed x) (isEpoch : value = some x)
    (h : epochOf value = some epoch) {p : PolicyFields}
    (availability : p.forecastAvailabilityRuleSetHash = epoch.forecastAvailabilityRuleSetHash)
    (resolution : p.forecastResolutionPolicyHash = epoch.forecastResolutionPolicyHash)
    (outcomeAvailability : p.outcomeAvailabilityRuleSetHash = epoch.outcomeAvailabilityRuleSetHash)
    (outcomeResolution : p.outcomeResolutionPolicyHash = epoch.outcomeResolutionPolicyHash)
    (lag : p.resolutionLagSeconds = epoch.resolutionLagSeconds) :
    byKey x = toValue floats (epochDocument p) := by
  subst isEpoch
  obtain ⟨hKeys, hAvailability, hResolution, hOutcomeAvailability, hOutcomeResolution, hLag⟩ :=
    epochOf_eq_some h
  rw [byKey_object keyed (by decide) hKeys]
  simp only [epochKeys, List.map_cons, List.map_nil, hAvailability.1, hResolution.1,
    hOutcomeAvailability.1, hOutcomeResolution.1, hLag, Option.map_some, Option.getD_some, byKey_str,
    byKey_number, epochDocument, toValue, toEntries, Json.plain, availability, resolution,
    outcomeAvailability, outcomeResolution, lag]

/-- The fields that the registry reads from a document. -/
def fieldsOf (selector version : String) (horizon sealLead : Nat) (steps coverages : List Nat)
    (symbols : List String) (fit heldout : Window) (epoch : Epoch) (fitOrdered : fit.start ≤ fit.last)
    (heldoutOrdered : heldout.start ≤ heldout.last) : PolicyFields where
  symbols
  target := "close"
  seriesBasis := "raw"
  horizonUnit := "trading_day"
  currency := "USD"
  modelSelector := selector
  modelVersion := version
  horizon
  selectedSteps := steps.map fun (n : Nat) => (n : Int)
  intervalCoveragesMillis := coverages.map fun (n : Nat) => (n : Int)
  fitWindow := ⟨fit.start, fit.last, fitOrdered⟩
  heldoutWindow := ⟨heldout.start, heldout.last, heldoutOrdered⟩
  minimumFitMemberCount := fit.text.minimumMemberCount
  minimumHeldoutMemberCount := heldout.text.minimumMemberCount
  minimumSealLeadSeconds := sealLead
  cadence := "xnys_session_daily"
  snapshotBinding := "explicit_snapshot_id"
  selectionRule := "complete_selected_step_bundle_within_one_utc_target_window"
  resolutionLagSeconds := epoch.resolutionLagSeconds
  forecastResolutionPolicyHash := epoch.forecastResolutionPolicyHash
  forecastAvailabilityRuleSetHash := epoch.forecastAvailabilityRuleSetHash
  outcomeResolutionPolicyHash := epoch.outcomeResolutionPolicyHash
  outcomeAvailabilityRuleSetHash := epoch.outcomeAvailabilityRuleSetHash
  schemaVersion := 1

theorem unparsed_of_model {selector version : String} (h : ModelSupported (some selector) (some version)) :
    parse selector.toList = none ∧ parse version.toList = none := by
  obtain ⟨hSelector, version', hVersion, -, hNaive, hDrift⟩ := h
  cases hVersion
  have hSelectorText : selector = "baseline_naive" ∨ selector = "baseline_drift" := by
    simpa using hSelector
  have hStart : ∀ start : String, start.toList = 'b' :: start.toList.tail → StartsWith start version →
      parse version.toList = none := by
    intro start hLetter hStarts
    rw [StartsWith, List.isPrefixOf_iff_prefix] at hStarts
    obtain ⟨rest, hRest⟩ := hStarts
    rw [← hRest, hLetter, List.cons_append]
    exact parse_letter _ (by decide) (by decide) (by decide)
  rcases hSelectorText with rfl | rfl
  · exact ⟨parse_letter _ (by decide) (by decide) (by decide), hStart _ rfl (hNaive rfl)⟩
  · exact ⟨parse_letter _ (by decide) (by decide) (by decide), hStart _ rfl (hDrift rfl)⟩

theorem parse_forecast (rest : List Char) : parse ('f' :: 'o' :: rest) = none := by
  simp [parse, readValue, skipSpace, JsonText.isSpace, readWord]

theorem parse_trading (rest : List Char) : parse ('t' :: 'r' :: 'a' :: rest) = none := by
  simp [parse, readValue, skipSpace, JsonText.isSpace, readWord]

/-- An array whose items are read by an injective reader. -/
theorem byKey_array {α : Type} {value : Option Value} (isList : isArray value = true)
    {f : Value → Option α} {g : α → Value} (inverse : ∀ x y, f x = some y → x = g y)
    (scalar : ∀ y, byKey (g y) = g y) {ys : List α} (h : (elements value).mapM f = some ys) :
    value.map byKey = some (.arr (ys.map g)) := by
  cases value with
  | none => cases isList
  | some v =>
    cases v with
    | arr items =>
      have hItems : items = ys.map g := eq_map_of_mapM inverse h
      rw [Option.map_some, byKey, byKeyItems_eq_map, hItems, List.map_map]
      congr 2
      exact List.map_congr_left fun y _ => scalar y
    | _ => cases isList

theorem byKey_study {study : Option Value} {x : Value} (keyed : Keyed x) (isStudy : study = some x)
    (supported : StudySupported study) {selector version : String} {horizon : Nat}
    (hSelector : getText study "model_selector" = some selector)
    (hVersion : getText study "model_version" = some version)
    (hHorizon : digitsOf 3 (get study "horizon") = some horizon)
    (hSteps : (elements (get study "selected_steps")).mapM (fun item => digitsOf 3 (some item)) =
      some steps)
    (hCoverages : (elements (get study "interval_coverages_millis")).mapM
      (fun item => digitsOf 3 (some item)) = some coverages)
    (hSymbols : (elements (get study "symbols")).mapM symbolOf = some symbols) {sealLead : Nat}
    (fitOrdered : fit.start ≤ fit.last) (heldoutOrdered : heldout.start ≤ heldout.last) :
    byKey x = toValue floats (studyDocument (fieldsOf selector version horizon sealLead steps coverages
      symbols fit heldout epoch fitOrdered heldoutOrdered)) := by
  subst isStudy
  obtain ⟨hKeys, hTarget, hBasis, hUnit, hCurrency, hCadence, hBinding, hRule, hModel, -, hStepList,
    hCoverageList, hSymbolList⟩ := supported
  rw [hSelector, hVersion] at hModel
  have hDigits : ∀ (item : Value) (n : Nat), digitsOf 3 (some item) = some n →
      item = .number (ofInt n) := fun item n h => Option.some.inj (number_of_digitsOf h)
  have hNumber : ∀ n : Nat, byKey (.number (ofInt n)) = .number (ofInt n) := fun n => byKey_number _
  have hStepItems := byKey_array hStepList hDigits hNumber hSteps
  have hCoverageItems := byKey_array hCoverageList hDigits hNumber hCoverages
  have hSymbolItems := byKey_array hSymbolList (fun _ _ => eq_str_of_symbolOf) byKey_str hSymbols
  have hLetter : ∀ {c : Char} {rest : List Char}, JsonText.isSpace c = false →
      c ∉ ['"', '[', '\x7b', 'n', 't', 'f', '-'] → Digits.isDigit c = false →
      parse (c :: rest) = none := fun h1 h2 h3 => parse_letter _ h1 h2 h3
  have hField := @field_of_getText (some x)
  rw [byKey_object keyed (by decide) hKeys]
  simp only [studyKeys, List.map_cons, List.map_nil,
    hField hTarget (hLetter (by decide) (by decide) (by decide)),
    hField hBasis (hLetter (by decide) (by decide) (by decide)), hField hUnit (parse_trading _),
    hField hCurrency (hLetter (by decide) (by decide) (by decide)),
    hField hCadence (hLetter (by decide) (by decide) (by decide)),
    hField hBinding (hLetter (by decide) (by decide) (by decide)),
    hField hRule (hLetter (by decide) (by decide) (by decide)),
    hField hSelector (unparsed_of_model hModel).1, hField hVersion (unparsed_of_model hModel).2,
    number_of_digitsOf hHorizon, hStepItems, hCoverageItems, hSymbolItems, Option.map_some,
    Option.getD_some, byKey_str, byKey_number, studyDocument, fieldsOf, toValue, toEntries, Json.plain,
    toItems_eq_map, List.map_map, Function.comp_def]

theorem byKey_windows {windows : Option Value} {x : Value} (keyed : Keyed x) (isWindows : windows = some x)
    (supported : WindowsSupported windows)
    (hFit : ∃ t, windowTextOf (get windows "fit") = some t ∧ t.cast = some fit)
    (hHeldout : ∃ t, windowTextOf (get windows "heldout") = some t ∧ t.cast = some heldout)
    (trips : fit.RoundTrips ∧ heldout.RoundTrips) {selector version : String} {horizon sealLead : Nat}
    (fitOrdered : fit.start ≤ fit.last) (heldoutOrdered : heldout.start ≤ heldout.last) :
    byKey x = toValue floats (windowsDocument (fieldsOf selector version horizon sealLead steps coverages
      symbols fit heldout epoch fitOrdered heldoutOrdered)) := by
  subst isWindows
  obtain ⟨hKeys, hAggregation, hUnit, hDate, hFitObject, hHeldoutObject⟩ := supported
  obtain ⟨fitText, hFitText, hFitCast⟩ := hFit
  obtain ⟨heldoutText, hHeldoutText, hHeldoutCast⟩ := hHeldout
  obtain ⟨fitValue, hFitValue, hFitKeyed⟩ := field_of_isObject keyed hFitObject
  obtain ⟨heldoutValue, hHeldoutValue, hHeldoutKeyed⟩ := field_of_isObject keyed hHeldoutObject
  have hField := @field_of_getText (some x)
  have hFitDocument : byKey fitValue =
      toValue floats (windowDocument ⟨fit.start, fit.last, fitOrdered⟩ fit.text.minimumMemberCount) :=
    byKey_window hFitKeyed hFitValue hFitText hFitCast trips.1 fitOrdered
  have hHeldoutDocument : byKey heldoutValue = toValue floats
      (windowDocument ⟨heldout.start, heldout.last, heldoutOrdered⟩ heldout.text.minimumMemberCount) :=
    byKey_window hHeldoutKeyed hHeldoutValue hHeldoutText hHeldoutCast trips.2 heldoutOrdered
  rw [byKey_object keyed (by decide) hKeys]
  simp only [windowsKeys, List.map_cons, List.map_nil, hFitValue, hHeldoutValue,
    hField hAggregation (parse_letter _ (by decide) (by decide) (by decide)),
    hField hUnit (parse_forecast _),
    hField hDate (parse_letter _ (by decide) (by decide) (by decide)), Option.map_some,
    Option.getD_some, byKey_str, hFitDocument, hHeldoutDocument, windowsDocument, fieldsOf, toValue,
    toEntries, Json.plain]

/-- The one spelling of the version of the format. -/
theorem schemaVersion_of_text {value : Option Value} (number : isNumber value = true)
    (h : asText value = some "1") : value = some (.number (ofInt 1)) := by
  cases value with
  | none => cases number
  | some v =>
    obtain ⟨n, rfl, hDigits⟩ := number_of_asText number h (by decide)
    have hRead := read_natural n
    rw [← hDigits] at hRead
    cases hRead
    rfl

theorem valid_fieldsOf (h : Reads document steps coverages symbols fit heldout epoch)
    {selector version : String} {horizon sealLead : Nat}
    (hSelector : getText (get (some document) "study") "model_selector" = some selector)
    (hVersion : getText (get (some document) "study") "model_version" = some version)
    (hHorizon : digitsOf 3 (get (get (some document) "study") "horizon") = some horizon)
    (hSealLead : digitsOf 8 (get (some document) "minimum_seal_lead_seconds") = some sealLead)
    (fitOrdered : fit.start ≤ fit.last) (heldoutOrdered : heldout.start ≤ heldout.last) :
    (fieldsOf selector version horizon sealLead steps coverages symbols fit heldout epoch fitOrdered
      heldoutOrdered).Valid := by
  obtain ⟨-, -, -, hDisjoint, -, hFitCount, hHeldoutCount⟩ := h.windowsOrdered
  obtain ⟨-, -, -, -, -, -, -, -, hModel, -, hStepList, hCoverageList, hSymbolList⟩ := h.study
  obtain ⟨hStepCount, hCoverageCount, hSymbolCount⟩ := h.arrays
  obtain ⟨-, hAvailability, hResolution, hOutcomeAvailability, hOutcomeResolution, -⟩ :=
    epochOf_eq_some h.hasEpoch
  have hOrdered := h.ordered
  rw [hHorizon, hSealLead, Option.getD_some, Option.getD_some] at hOrdered
  obtain ⟨hHorizonBounds, hLeadBounds, ⟨hStepBounds, hStepsSorted⟩, ⟨hCoverageBounds, hCoveragesSorted⟩,
    hSymbolsSorted⟩ := hOrdered
  have hDigits : ∀ (item : Value) (n : Nat), digitsOf 3 (some item) = some n →
      item = .number (ofInt n) := fun item n h => Option.some.inj (number_of_digitsOf h)
  rw [eq_map_of_mapM hDigits h.hasSteps, List.length_map] at hStepCount
  rw [eq_map_of_mapM hDigits h.hasCoverages, List.length_map] at hCoverageCount
  rw [eq_map_of_mapM (fun _ _ => eq_str_of_symbolOf) h.hasSymbols, List.length_map] at hSymbolCount
  have hAscending : ∀ values : List Nat, Increasing values →
      (values.map fun (n : Nat) => (n : Int)).Pairwise (· < ·) := by
    intro values hChain
    rw [List.pairwise_map]
    exact (List.isChain_iff_pairwise.mp hChain).imp Int.ofNat_lt.mpr
  constructor
  case schemaVersion => rfl
  case symbolCount => exact hSymbolCount
  case symbols =>
    intro s hs
    obtain ⟨item, -, hItem⟩ := exists_of_mapM h.hasSymbols hs
    rw [eq_str_of_symbolOf hItem, symbolOf] at hItem
    split_ifs at hItem with hSymbol
    exact hSymbol
  case symbolsSorted => exact List.isChain_iff_pairwise.mp hSymbolsSorted
  case target => rfl
  case seriesBasis => rfl
  case horizonUnit => rfl
  case currency => rfl
  case model =>
    rw [hSelector, hVersion] at hModel
    obtain ⟨hNames, version', hVersion', hIsVersion, hNaive, hDrift⟩ := hModel
    cases hVersion'
    rcases hNames with hName | hName
    · cases hName
      exact ⟨_, rfl, hIsVersion, hNaive rfl⟩
    · cases hName
      exact ⟨_, rfl, hIsVersion, hDrift rfl⟩
  case horizon => simpa [fieldsOf] using hHorizonBounds
  case someStep =>
    intro hNone
    have hLength := congrArg List.length hNone
    rw [fieldsOf, List.length_map, List.length_nil] at hLength
    omega
  case steps =>
    intro s hs
    obtain ⟨n, hn, rfl⟩ := List.mem_map.mp hs
    have hBounds := hStepBounds n hn
    simp only [fieldsOf]
    omega
  case stepsSorted => exact hAscending steps hStepsSorted
  case coverageCount =>
    rw [fieldsOf, List.length_map]
    exact hCoverageCount
  case coverages =>
    intro c hc
    obtain ⟨n, hn, rfl⟩ := List.mem_map.mp hc
    have hBounds := hCoverageBounds n hn
    omega
  case coveragesSorted => exact hAscending coverages hCoveragesSorted
  case windows => exact hDisjoint
  case fitCount => simpa [fieldsOf] using hFitCount
  case heldoutCount => simpa [fieldsOf] using hHeldoutCount
  case sealLead => simpa [fieldsOf] using hLeadBounds
  case cadence => rfl
  case snapshotBinding => rfl
  case selectionRule => rfl
  case forecastResolution => exact hResolution.2
  case forecastAvailability => exact hAvailability.2
  case outcomeResolution => exact hOutcomeResolution.2
  case outcomeAvailability => exact hOutcomeAvailability.2
  case lag => simpa [fieldsOf] using h.lag

/-- What the registry reads is a valid policy, and the canonical text is that of the policy. -/
theorem policy_of_reads (pg : Postgres) (floats : FloatText) (keyed : Keyed document)
    (h : Reads document steps coverages symbols fit heldout epoch) :
    ∃ p : PolicyFields, p.Valid ∧ byKey document = toValue floats (policyDocument p) ∧
      ∀ bytes clock xid,
        Projects pg p bytes (stampedColumns pg document steps fit heldout epoch bytes clock xid) := by
  obtain ⟨hKeys, hFormat, hSchema, hLead, hStudyObject, hWindowsObject, hEpochObject⟩ := h.envelope
  obtain ⟨hFitTrips, hHeldoutTrips, hFitOrdered, -, hHeldoutOrdered, -⟩ := h.windowsOrdered
  obtain ⟨sealLead, hSealLead⟩ := Option.isSome_iff_exists.mp hLead
  obtain ⟨studyValue, hStudyValue, hStudyKeyed⟩ := field_of_isObject keyed hStudyObject
  obtain ⟨windowsValue, hWindowsValue, hWindowsKeyed⟩ := field_of_isObject keyed hWindowsObject
  obtain ⟨epochValue, hEpochValue, hEpochKeyed⟩ := field_of_isObject keyed hEpochObject
  obtain ⟨-, -, -, -, -, -, -, -, hModel, hHorizonSome, -⟩ := h.study
  obtain ⟨horizon, hHorizon⟩ := Option.isSome_iff_exists.mp hHorizonSome
  obtain ⟨selector, hSelector⟩ : ∃ selector,
      getText (get (some document) "study") "model_selector" = some selector := by
    rcases hModel.1 with hSelector | hSelector <;> exact ⟨_, hSelector⟩
  obtain ⟨version, hVersion, -⟩ := hModel.2
  have hValid := valid_fieldsOf h hSelector hVersion hHorizon hSealLead hFitOrdered hHeldoutOrdered
  refine ⟨_, hValid, ?_, ?_⟩
  · have hStudyDocument : byKey studyValue = toValue floats (studyDocument (fieldsOf selector version
        horizon sealLead steps coverages symbols fit heldout epoch hFitOrdered hHeldoutOrdered)) :=
      byKey_study hStudyKeyed hStudyValue h.study hSelector hVersion hHorizon h.hasSteps h.hasCoverages
        h.hasSymbols hFitOrdered hHeldoutOrdered
    have hWindowsDocument : byKey windowsValue = toValue floats (windowsDocument (fieldsOf selector
        version horizon sealLead steps coverages symbols fit heldout epoch hFitOrdered
        hHeldoutOrdered)) :=
      byKey_windows hWindowsKeyed hWindowsValue h.windows h.hasFit h.hasHeldout
        ⟨hFitTrips, hHeldoutTrips⟩ hFitOrdered hHeldoutOrdered
    have hEpochDocument : byKey epochValue = toValue floats (epochDocument (fieldsOf selector version
        horizon sealLead steps coverages symbols fit heldout epoch hFitOrdered hHeldoutOrdered)) :=
      byKey_epoch hEpochKeyed hEpochValue h.hasEpoch rfl rfl rfl rfl rfl
    have hField := @field_of_getText (some document)
    rw [byKey_object keyed (by decide) hKeys]
    simp only [policyKeys, List.map_cons, List.map_nil,
      hField hFormat (parse_forecast _),
      number_of_digitsOf hSealLead, schemaVersion_of_text hSchema.1 hSchema.2, hEpochValue, hStudyValue,
      hWindowsValue, Option.map_some, Option.getD_some, byKey_str, byKey_number, hStudyDocument,
      hWindowsDocument, hEpochDocument]
    rfl
  · intro bytes clock xid
    refine ⟨rfl, rfl, rfl, rfl, rfl, rfl, ⟨rfl, rfl⟩, ⟨rfl, rfl⟩, rfl, rfl, ?_, rfl, rfl⟩
    rw [stampedColumns, hSealLead]
    rfl

end Registered

/-! ## From the parser to the registry -/

section Canonical

variable {p : PolicyFields}

theorem dateFields_isoformat (d : Date) : dateFields d.isoformat = some (d.year, d.month, d.day) := by
  have hYear : d.year < 10 ^ 4 := by have := d.yearRange.2; omega
  have hMonth : d.month < 10 ^ 2 := by have := d.monthRange.2; omega
  have h4 := Digits.read_pad 4 d.year (by decide) hYear
  have hM := Digits.read_pad 2 d.month (by decide) hMonth
  have hD := Digits.read_pad 2 d.day (by decide) d.day_lt
  rw [Stamp.pad_four] at h4
  rw [Stamp.pad_two] at hM hD
  rw [dateFields, Date.isoformat, String.toList_ofList, Date.isoChars, Stamp.pad_four]
  simp only [Stamp.pad_two, List.cons_append, List.nil_append, h4, hM, hD]
  rfl

theorem castDate_isoformat (d : Date) : castDate d.isoformat = some d := by
  rw [castDate, dateFields_isoformat, Option.bind_some]
  exact Date.ofParts_self d

theorem hasZero_isoformat (d : Date) : hasZero d.isoformat = false := by
  have hPad : ∀ width n, (Digits.pad width n).all (fun c => Digits.isDigit c || c = '-') = true := by
    intro width n
    have hDigits := Digits.all_isDigit_pad width n
    rw [List.all_eq_true] at hDigits ⊢
    intro c hc
    simp [hDigits c hc]
  have hAll : d.isoformat.toList.all (fun c => Digits.isDigit c || c = '-') = true := by
    rw [Date.isoformat, String.toList_ofList, Date.isoChars]
    simp only [List.all_append, List.all_cons, hPad, Bool.true_and, Bool.and_true]
    decide
  exact hasZero_of_all hAll (by decide)

theorem keptItems_map {α : Type} {f : α → Value} {values : List α} (h : ∀ a ∈ values, Kept (f a)) :
    KeptItems (values.map f) := by
  induction values with
  | nil => exact trivial
  | cons a rest ih =>
    exact ⟨h a List.mem_cons_self, ih fun b hb => h b (List.mem_cons_of_mem _ hb)⟩

/-- The bytes of a document that the server keeps as it is. -/
theorem read_dumps {d : Document} (kept : Kept (toValue floats d)) :
    Jsonb.read (dumps floats d) = some (stored (toValue floats d)) := by
  rw [Jsonb.read, dumps, decode_encode, Option.bind_some, parse_write rfl, Option.bind_some, ofValue_kept _ kept]

/-- The server keeps the document of a valid policy as it is, up to the order of the keys. -/
theorem kept_policyDocument (floats : FloatText) (valid : p.Valid) : Kept (toValue floats (policyDocument p)) := by
  have hSymbol : ∀ s ∈ p.symbols, hasZero s = false :=
    fun s hs => hasZero_of_all (valid.symbols s hs).1.2 (by decide)
  have hVersion : hasZero p.modelVersion = false := by
    obtain ⟨start, -, ⟨-, -, hLetters⟩, -⟩ := valid.model
    exact hasZero_of_all hLetters (by decide)
  have hSelector : hasZero p.modelSelector = false := by
    obtain ⟨start, hLookup, -⟩ := valid.model
    rcases modelVersionStart_lookup.mp hLookup with ⟨h, -⟩ | ⟨h, -⟩ <;> rw [h] <;> decide
  have hSymbols : KeptItems (p.symbols.map fun s => .str s) := keptItems_map hSymbol
  have hNumbers : ∀ values : List Int, KeptItems (values.map fun n => .number (ofInt n)) :=
    fun values => keptItems_map fun n _ => numeric_ofInt n
  simp only [policyDocument, epochDocument, studyDocument, windowsDocument, windowDocument, toValue,
    toEntries, toItems_eq_map, Json.plain, Kept, KeptEntries, List.map_cons, List.map_nil, List.map_map,
    Function.comp_def, numeric_ofInt, hasZero_isoformat, hVersion, hSelector, hSymbols, hNumbers,
    hasZero_of_isHash valid.forecastAvailability, hasZero_of_isHash valid.forecastResolution,
    hasZero_of_isHash valid.outcomeAvailability, hasZero_of_isHash valid.outcomeResolution,
    valid.target, valid.seriesBasis, valid.horizonUnit, valid.currency, valid.cadence,
    valid.snapshotBinding, valid.selectionRule, and_true, true_and]
  decide

/-! What the server reads from the entries of a document. -/

section Entries

variable {document field : Document} {key : String}

def entriesOf : Document → List (String × Document)
  | .obj entries => entries
  | _ => []

theorem lookup_toEntries (entries : List (String × Document)) (key : String) :
    (toEntries floats entries).lookup key = (entries.lookup key).map (toValue floats) := by
  induction entries with
  | nil => rfl
  | cons e rest ih =>
    obtain ⟨k, x⟩ := e
    rw [toEntries, List.lookup_cons, List.lookup_cons]
    cases hKey : key == k with
    | true => rfl
    | false => exact ih

theorem get_entry (ordered : ((entriesOf document).map Prod.fst).Pairwise (· < ·))
    (found : (entriesOf document).lookup key = some field) :
    get (some (stored (toValue floats document))) key = some (stored (toValue floats field)) := by
  cases document with
  | obj entries =>
    rw [entriesOf] at ordered found
    rw [toValue, get_stored (by rw [toEntries_keys]; exact ordered), lookup_toEntries, found]
    rfl
  | _ => cases found

theorem getText_entry (ordered : ((entriesOf document).map Prod.fst).Pairwise (· < ·)) {s : String}
    (found : (entriesOf document).lookup key = some (.plain s)) :
    getText (some (stored (toValue floats document))) key = some s := by
  rw [getText, get_entry ordered found, Json.plain, toValue, stored]
  rfl

theorem keys_ordered (ordered : Ordered document) : ((entriesOf document).map Prod.fst).Pairwise (· < ·) := by
  cases document with
  | obj entries =>
    rw [Ordered] at ordered
    exact ordered.1
  | _ => exact .nil

theorem get_document (ordered : Ordered document) (found : (entriesOf document).lookup key = some field) :
    get (some (stored (toValue floats document))) key = some (stored (toValue floats field)) :=
  get_entry (keys_ordered ordered) found

theorem getText_document (ordered : Ordered document) {s : String}
    (found : (entriesOf document).lookup key = some (.plain s)) :
    getText (some (stored (toValue floats document))) key = some s := getText_entry (keys_ordered ordered) found

theorem digitsOf_document (ordered : Ordered document) {n : Int} {width : Nat}
    (found : (entriesOf document).lookup key = some (.int n)) (positive : 0 < width)
    (bounds : 0 ≤ n ∧ n < 10 ^ width) :
    digitsOf width (get (some (stored (toValue floats document))) key) = some n.toNat := by
  obtain ⟨m, rfl⟩ := Int.eq_ofNat_of_zero_le bounds.1
  rw [get_document ordered found, toValue, stored]
  exact digitsOf_ofInt positive (by exact_mod_cast bounds.2)

theorem elements_document (ordered : Ordered document) {items : List Document}
    (found : (entriesOf document).lookup key = some (.arr items)) :
    elements (get (some (stored (toValue floats document))) key) =
      items.map fun d => stored (toValue floats d) := by
  rw [get_document ordered found, toValue, elements_stored, toItems_eq_map, List.map_map]
  rfl

theorem hasKeys_document {entries : List (String × Document)} {schema : List String}
    (keys : entries.map Prod.fst = schema) :
    HasKeys (some (stored (toValue floats (.obj entries)))) schema := by
  rw [toValue]
  exact hasKeys_stored (by rw [toEntries_keys, keys])

end Entries

theorem ordered_windowDocument (w : ForecastSelectionWindow) (count : Int) :
    Ordered (windowDocument w count) := by
  simp only [windowDocument, Ordered, OrderedEntries, Json.plain, List.map_cons, List.map_nil, and_true]
  decide

theorem ordered_epochDocument (p : PolicyFields) : Ordered (epochDocument p) := by
  simp only [epochDocument, Ordered, OrderedEntries, Json.plain, List.map_cons, List.map_nil, and_true]
  decide

theorem ordered_studyDocument (p : PolicyFields) : Ordered (studyDocument p) := by
  have hPolicy := ordered_policyDocument p
  simp only [policyDocument, Ordered, OrderedEntries] at hPolicy
  exact hPolicy.2.2.2.2.2.1

theorem ordered_windowsDocument (p : PolicyFields) : Ordered (windowsDocument p) := by
  have hPolicy := ordered_policyDocument p
  simp only [policyDocument, Ordered, OrderedEntries] at hPolicy
  exact hPolicy.2.2.2.2.2.2.1

/-- A window and its count as the registry reads them. -/
def windowRead (w : ForecastSelectionWindow) (count : Int) : Window :=
  ⟨⟨w.start.isoformat, w.last.isoformat, count.toNat⟩, w.start, w.last⟩

def epochRead (p : PolicyFields) : Epoch where
  forecastAvailabilityRuleSetHash := p.forecastAvailabilityRuleSetHash
  forecastResolutionPolicyHash := p.forecastResolutionPolicyHash
  outcomeAvailabilityRuleSetHash := p.outcomeAvailabilityRuleSetHash
  outcomeResolutionPolicyHash := p.outcomeResolutionPolicyHash
  resolutionLagSeconds := p.resolutionLagSeconds.toNat

theorem windowTextOf_document (w : ForecastSelectionWindow) {count : Int}
    (bounds : 1 ≤ count ∧ count ≤ 1000000) :
    windowTextOf (some (stored (toValue floats (windowDocument w count)))) =
        some (windowRead w count).text ∧
      (windowRead w count).text.cast = some (windowRead w count) := by
  have hOrdered := ordered_windowDocument w count
  have hKeys : HasKeys (some (stored (toValue floats (windowDocument w count)))) windowKeys :=
    hasKeys_document rfl
  have hCount : digitsOf 7 (get (some (stored (toValue floats (windowDocument w count))))
      "minimum_member_count") = some count.toNat :=
    digitsOf_document hOrdered rfl (by decide) (by omega)
  have hStart : getText (some (stored (toValue floats (windowDocument w count)))) "start" =
      some w.start.isoformat := getText_document hOrdered rfl
  have hLast : getText (some (stored (toValue floats (windowDocument w count)))) "end" =
      some w.last.isoformat := getText_document hOrdered rfl
  have hFields : ∀ d : Date, (dateFields d.isoformat).isSome = true := by
    intro d
    rw [dateFields_isoformat]
    rfl
  constructor
  · rw [windowTextOf, if_pos hKeys, hCount, hStart, hLast]
    simp [Option.filter_some, hFields, windowRead]
  · simp [WindowText.cast, windowRead, castDate_isoformat]

theorem epochOf_document (valid : p.Valid) :
    epochOf (some (stored (toValue floats (epochDocument p)))) = some (epochRead p) := by
  have hOrdered := ordered_epochDocument p
  have hKeys : HasKeys (some (stored (toValue floats (epochDocument p)))) epochKeys :=
    hasKeys_document rfl
  have hHash : ∀ {key s : String}, IsHash s →
      getText (some (stored (toValue floats (epochDocument p)))) key = some s →
      hashOf (getText (some (stored (toValue floats (epochDocument p)))) key) = some s := by
    intro key s hIs hText
    rw [hText, hashOf, Option.filter_some, if_pos (by simpa using hIs)]
  have hBounds := valid.lag
  have hLag : digitsOf 8 (get (some (stored (toValue floats (epochDocument p))))
      "resolution_lag_seconds") = some p.resolutionLagSeconds.toNat :=
    digitsOf_document hOrdered rfl (by decide) (by omega)
  rw [epochOf, if_pos hKeys, hHash valid.forecastAvailability (getText_document hOrdered rfl),
    hHash valid.forecastResolution (getText_document hOrdered rfl),
    hHash valid.outcomeAvailability (getText_document hOrdered rfl),
    hHash valid.outcomeResolution (getText_document hOrdered rfl), hLag]
  rfl

theorem digits_list {values : List Int} {bound : Int} (small : bound < 1000)
    (bounds : ∀ n ∈ values, 1 ≤ n ∧ n ≤ bound) :
    (values.map fun n => stored (toValue floats (.int n))).mapM (fun item => digitsOf 3 (some item)) =
      some (values.map Int.toNat) := by
  have hValues : (values.map fun n => stored (toValue floats (.int n))) =
      (values.map Int.toNat).map fun (n : Nat) => Value.number (ofInt n) := by
    rw [List.map_map]
    apply List.map_congr_left
    intro n hn
    rw [Function.comp_apply, Int.toNat_of_nonneg (by have := bounds n hn; omega), toValue, stored]
  rw [hValues]
  apply mapM_map
  intro m hm
  obtain ⟨n, hn, rfl⟩ := List.mem_map.mp hm
  have hBounds := bounds n hn
  exact digitsOf_ofInt (by decide) (by omega)

theorem increasing_toNat {values : List Int} (positive : ∀ n ∈ values, 1 ≤ n)
    (ascending : values.Pairwise (· < ·)) : Increasing (values.map Int.toNat) := by
  rw [Increasing, List.isChain_iff_pairwise, List.pairwise_map]
  refine ascending.imp_of_mem fun {a b} ha hb hLt => ?_
  have := positive a ha
  have := positive b hb
  omega

theorem modelSupported (valid : p.Valid) : ModelSupported (some p.modelSelector) (some p.modelVersion) := by
  obtain ⟨start, hLookup, hVersion, hStarts⟩ := valid.model
  rcases modelVersionStart_lookup.mp hLookup with ⟨hSelector, rfl⟩ | ⟨hSelector, rfl⟩
  · refine ⟨Or.inl (congrArg some hSelector), p.modelVersion, rfl, hVersion, fun _ => hStarts, ?_⟩
    intro hDrift
    rw [hSelector, Option.some.injEq] at hDrift
    exact absurd hDrift (by decide)
  · refine ⟨Or.inr (congrArg some hSelector), p.modelVersion, rfl, hVersion, ?_, fun _ => hStarts⟩
    intro hNaive
    rw [hSelector, Option.some.injEq] at hNaive
    exact absurd hNaive (by decide)

/-- The registry reads the document of a valid policy. -/
theorem reads_canonical (floats : FloatText) (valid : p.Valid) :
    Reads (stored (toValue floats (policyDocument p))) (p.selectedSteps.map Int.toNat)
      (p.intervalCoveragesMillis.map Int.toNat) p.symbols
      (windowRead p.fitWindow p.minimumFitMemberCount)
      (windowRead p.heldoutWindow p.minimumHeldoutMemberCount) (epochRead p) := by
  have hOrdered := ordered_policyDocument p
  have hStudyOrdered := ordered_studyDocument p
  have hWindowsOrdered := ordered_windowsDocument p
  have hStudy : get (some (stored (toValue floats (policyDocument p)))) "study" =
      some (stored (toValue floats (studyDocument p))) := get_document hOrdered rfl
  have hWindows : get (some (stored (toValue floats (policyDocument p)))) "windows" =
      some (stored (toValue floats (windowsDocument p))) := get_document hOrdered rfl
  have hEpoch : get (some (stored (toValue floats (policyDocument p)))) "policy_epoch" =
      some (stored (toValue floats (epochDocument p))) := get_document hOrdered rfl
  have hSchema : get (some (stored (toValue floats (policyDocument p)))) "schema_version" =
      some (stored (toValue floats (.int p.schemaVersion))) := get_document hOrdered rfl
  have hFit : get (some (stored (toValue floats (windowsDocument p)))) "fit" =
      some (stored (toValue floats (windowDocument p.fitWindow p.minimumFitMemberCount))) :=
    get_document hWindowsOrdered rfl
  have hHeldout : get (some (stored (toValue floats (windowsDocument p)))) "heldout" =
      some (stored (toValue floats (windowDocument p.heldoutWindow p.minimumHeldoutMemberCount))) :=
    get_document hWindowsOrdered rfl
  have hLead := valid.sealLead
  have hSealLead : digitsOf 8 (get (some (stored (toValue floats (policyDocument p))))
      "minimum_seal_lead_seconds") = some p.minimumSealLeadSeconds.toNat :=
    digitsOf_document hOrdered rfl (by decide) (by omega)
  have hSpan := valid.horizon
  have hHorizon : digitsOf 3 (get (some (stored (toValue floats (studyDocument p)))) "horizon") =
      some p.horizon.toNat := digitsOf_document hStudyOrdered rfl (by decide) (by omega)
  have hSteps : elements (get (some (stored (toValue floats (studyDocument p)))) "selected_steps") =
      p.selectedSteps.map fun n => stored (toValue floats (.int n)) := by
    rw [elements_document hStudyOrdered rfl, List.map_map]
    rfl
  have hCoverages : elements (get (some (stored (toValue floats (studyDocument p))))
      "interval_coverages_millis") =
      p.intervalCoveragesMillis.map fun n => stored (toValue floats (.int n)) := by
    rw [elements_document hStudyOrdered rfl, List.map_map]
    rfl
  have hSymbols : elements (get (some (stored (toValue floats (studyDocument p)))) "symbols") =
      p.symbols.map Value.str := by
    rw [elements_document hStudyOrdered rfl, List.map_map]
    refine List.map_congr_left fun s _ => ?_
    rw [Function.comp_apply, Json.plain, toValue, stored]
  have hStepBounds : ∀ n ∈ p.selectedSteps, 1 ≤ n ∧ n ≤ 252 := fun n hn => (valid.steps n hn).1
  constructor
  case envelope =>
    refine ⟨hasKeys_document rfl, getText_document hOrdered rfl, ⟨?_, ?_⟩, ?_, ?_, ?_, ?_⟩
    · rw [hSchema]
      rfl
    · rw [getText, hSchema, valid.schemaVersion]
      rfl
    · rw [hSealLead]
      rfl
    · rw [hStudy]
      rfl
    · rw [hWindows]
      rfl
    · rw [hEpoch]
      rfl
  case study =>
    rw [hStudy]
    have hText : ∀ {key s s' : String}, (entriesOf (studyDocument p)).lookup key = some (.plain s) →
        s = s' → getText (some (stored (toValue floats (studyDocument p)))) key = some s' := by
      rintro key s s' hFound rfl
      exact getText_document hStudyOrdered hFound
    refine ⟨hasKeys_document rfl, hText rfl valid.target, hText rfl valid.seriesBasis,
      hText rfl valid.horizonUnit, hText rfl valid.currency, hText rfl valid.cadence,
      hText rfl valid.snapshotBinding, hText rfl valid.selectionRule, ?_, ?_, ?_, ?_, ?_⟩
    · rw [hText (s := p.modelSelector) rfl rfl, hText (s := p.modelVersion) rfl rfl]
      exact modelSupported valid
    · rw [hHorizon]
      rfl
    · rw [get_document hStudyOrdered rfl, toValue, stored]
      rfl
    · rw [get_document hStudyOrdered rfl, toValue, stored]
      rfl
    · rw [get_document hStudyOrdered rfl, toValue, stored]
      rfl
  case arrays =>
    rw [hStudy]
    have hCount := length_selectedSteps valid
    simp only [StudyArraysBounded, hSteps, hCoverages, hSymbols, List.length_map]
    exact ⟨hCount, valid.coverageCount, valid.symbolCount⟩
  case hasSteps =>
    rw [hStudy, hSteps]
    exact digits_list (by decide) hStepBounds
  case hasCoverages =>
    rw [hStudy, hCoverages]
    exact digits_list (by decide) valid.coverages
  case hasSymbols =>
    rw [hStudy, hSymbols]
    apply mapM_map
    intro s hs
    rw [symbolOf]
    exact if_pos (valid.symbols s hs)
  case ordered =>
    rw [hStudy, hHorizon, hSealLead, Option.getD_some, Option.getD_some]
    refine ⟨by omega, by omega, ⟨?_, ?_⟩, ⟨?_, ?_⟩, ?_⟩
    · intro m hm
      obtain ⟨n, hn, rfl⟩ := List.mem_map.mp hm
      have := valid.steps n hn
      omega
    · exact increasing_toNat (fun n hn => (hStepBounds n hn).1) valid.stepsSorted
    · intro m hm
      obtain ⟨n, hn, rfl⟩ := List.mem_map.mp hm
      have := valid.coverages n hn
      omega
    · exact increasing_toNat (fun n hn => (valid.coverages n hn).1) valid.coveragesSorted
    · exact List.isChain_iff_pairwise.mpr valid.symbolsSorted
  case windows =>
    rw [hWindows]
    refine ⟨hasKeys_document rfl, getText_document hWindowsOrdered rfl,
      getText_document hWindowsOrdered rfl, getText_document hWindowsOrdered rfl, ?_, ?_⟩
    · rw [hFit]
      rfl
    · rw [hHeldout]
      rfl
  case hasFit =>
    rw [hWindows, hFit]
    exact ⟨_, windowTextOf_document p.fitWindow valid.fitCount⟩
  case hasHeldout =>
    rw [hWindows, hHeldout]
    exact ⟨_, windowTextOf_document p.heldoutWindow valid.heldoutCount⟩
  case windowsOrdered =>
    have hFitCount := valid.fitCount
    have hHeldoutCount := valid.heldoutCount
    refine ⟨⟨rfl, rfl⟩, ⟨rfl, rfl⟩, p.fitWindow.ordered, valid.windows, p.heldoutWindow.ordered, ?_, ?_⟩
    · simp only [windowRead]
      omega
    · simp only [windowRead]
      omega
  case hasEpoch =>
    rw [hEpoch]
    exact epochOf_document valid
  case lag =>
    have hLag := valid.lag
    simp only [epochRead]
    omega

end Canonical

/-! ## Both ways -/

variable {registered : List (OutcomePolicyRow pg)} {clock : Int} {xid : Nat} {bytes : Bytes}

theorem read_canonical {p : PolicyFields} (valid : p.Valid) :
    Jsonb.read (dumps floats (policyDocument p)) = some (stored (toValue floats (policyDocument p))) :=
  read_dumps (kept_policyDocument floats valid)

/-- Accepted bytes are the canonical bytes of a policy with the stamped columns. -/
theorem policy_of_stamp (floats : FloatText) {columns : SelectionPolicyColumns}
    (h : stampForecastSelectionPolicy registered clock xid bytes = .ok columns) :
    ∃ p : ProspectiveForecastSelectionPolicy, canonicalSelectionPolicy floats p = .ok bytes ∧
      Projects pg p.toPolicyFields bytes columns := by
  obtain ⟨hBounds, document, hRead, hCanonical, steps, coverages, symbols, fit, heldout, epoch, hReads,
    -, rfl⟩ := stampForecastSelectionPolicy_eq_ok.mp h
  obtain ⟨p, hValid, hDocument, hProjects⟩ :=
    policy_of_reads pg floats (keyed_read hRead) hReads
  refine ⟨⟨p, hValid⟩, canonicalSelectionPolicy_eq_ok.mpr ⟨?_, hBounds⟩, hProjects bytes clock xid⟩
  rw [← hCanonical, canonicalForecastSelectionJson, hDocument, dumps]

/-- The canonical bytes of a policy are accepted where its outcome policy is registered. -/
theorem stamp_of_policy {p : ProspectiveForecastSelectionPolicy}
    (h : canonicalSelectionPolicy floats p = .ok bytes)
    (named : ∃ row ∈ registered, (epochRead p.toPolicyFields).Names row) :
    ∃ columns, stampForecastSelectionPolicy registered clock xid bytes = .ok columns := by
  obtain ⟨rfl, hBounds⟩ := canonicalSelectionPolicy_eq_ok.mp h
  have hKept := kept_policyDocument floats p.valid
  refine ⟨_, stampForecastSelectionPolicy_eq_ok.mpr ⟨hBounds, _, read_canonical p.valid, ?_, _, _, _, _, _,
    _, reads_canonical floats p.valid, named, rfl⟩⟩
  rw [canonicalForecastSelectionJson, byKey_stored _ hKept, dumps]

/-- The outcome policy that the bytes name is registered with their lag. -/
def NamesRegistered (registered : List (OutcomePolicyRow pg)) (bytes : Bytes) : Prop :=
  ∀ document epoch, Jsonb.read bytes = some document →
    epochOf (get (some document) "policy_epoch") = some epoch → ∃ row ∈ registered, epoch.Names row

theorem NamesRegistered.of_canonical {p : ProspectiveForecastSelectionPolicy}
    (named : NamesRegistered registered bytes) (h : canonicalSelectionPolicy floats p = .ok bytes) :
    ∃ row ∈ registered, (epochRead p.toPolicyFields).Names row := by
  obtain ⟨rfl, -⟩ := canonicalSelectionPolicy_eq_ok.mp h
  exact named _ _ (read_canonical p.valid) (reads_canonical floats p.valid).hasEpoch

/-- The parser and the registry accept the same bytes and read the same policy from them. -/
theorem selection_policy_bytes_agree (floats : FloatText) (clock : Int) (xid : Nat)
    (named : NamesRegistered registered bytes) :
    ((∃ p, parseSelectionPolicy floats bytes = .ok p) ↔
      ∃ columns, stampForecastSelectionPolicy registered clock xid bytes = .ok columns) ∧
    (∀ p columns, parseSelectionPolicy floats bytes = .ok p →
      stampForecastSelectionPolicy registered clock xid bytes = .ok columns →
        Projects pg p.toPolicyFields bytes columns) ∧
    ∀ p, parseSelectionPolicy floats bytes = .ok p ↔ canonicalSelectionPolicy floats p = .ok bytes := by
  refine ⟨⟨?_, ?_⟩, ?_, fun p => parseSelectionPolicy_eq_ok⟩
  · rintro ⟨p, hParse⟩
    have hCanonical := parseSelectionPolicy_eq_ok.mp hParse
    exact stamp_of_policy hCanonical (named.of_canonical hCanonical)
  · rintro ⟨columns, hStamp⟩
    obtain ⟨p, hCanonical, -⟩ := policy_of_stamp floats hStamp
    exact ⟨p, parseSelectionPolicy_eq_ok.mpr hCanonical⟩
  · intro p columns hParse hStamp
    obtain ⟨p', hCanonical, hProjects⟩ := policy_of_stamp floats hStamp
    have hSame := parseSelectionPolicy_eq_ok.mpr hCanonical
    rw [hParse] at hSame
    cases hSame
    exact hProjects

/-! The bytes of a policy whose outcome policy is the only one registered. -/

def sampleOutcomePolicy : OutcomePolicyRow sampleServer where
  policyHash := sampleHash 1
  availabilityRuleSetHash := sampleHash 5
  resolutionLagSeconds := 86400
  canonicalPolicy := [0]
  recordedAt := 0
  creatorXid := 1
  checks := ⟨isHash_sampleHash 1, isHash_sampleHash 5, by decide, by decide, by decide, rfl⟩

def sampleFloats : FloatText := ⟨fun _ => 0, fun _ => ofInt 0⟩

theorem selection_policy_bytes_agree_sample :
    (∃ p, parseSelectionPolicy sampleFloats (dumps sampleFloats (policyDocument sampleFields)) = .ok p) ↔
      ∃ columns, stampForecastSelectionPolicy [sampleOutcomePolicy] 0 1
        (dumps sampleFloats (policyDocument sampleFields)) = .ok columns := by
  refine (selection_policy_bytes_agree sampleFloats 0 1 ?_).1
  intro document epoch hRead hEpoch
  rw [read_canonical valid_sampleFields, Option.some.injEq] at hRead
  rw [← hRead, (reads_canonical sampleFloats valid_sampleFields).hasEpoch, Option.some.injEq] at hEpoch
  exact ⟨sampleOutcomePolicy, List.mem_singleton.mpr rfl, by rw [← hEpoch]; exact ⟨rfl, rfl, rfl⟩⟩

end StockApi.Selection

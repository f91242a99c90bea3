import StockApi.Forecasts.Store
import StockApi.Library.ExactDecimal

/-!
# Runs that are read back

The bytes of a request or a response are read back exactly when normalizing its texts neither exceeds a
bound nor disturbs an order; the row of a run is replayed exactly when its headers were in normal form.
-/

namespace StockApi.Forecasts

open Checked CivilTime Documents Groups

section RoundTrip

variable (rules : TextRules) (floats : FloatText) (coercions : Coercions) (sha256 : Bytes → String)

/-- A request that the schema returns as it is. -/
def RequestValid (r : ForecastRequest) : Prop := validateRequest rules r = .ok r

/-- Bytes that are parsed, and written again for what was parsed. -/
def RequestReadsBack (b : Bytes) : Prop :=
  ∃ r, parseRequest rules floats coercions b = .ok r ∧ canonicalRequest rules floats r = .ok b

def OutputReadsBack (b : Bytes) : Prop :=
  ∃ r, parseOutput rules floats coercions b = .ok r ∧ canonicalOutput rules floats r = .ok b

variable {rules floats coercions sha256}

theorem requestReadsBack_iff (reads : ReadsBack floats) {r : ForecastRequest} {b : Bytes}
    (valid : RequestValid rules r) (hBytes : canonicalRequest rules floats r = .ok b) :
    RequestReadsBack rules floats coercions b ↔ RequestFits rules r := by
  have hSound := validateRequest_sound valid
  obtain ⟨hTimed, rfl, hLength⟩ := (canonicalRequest_eq_ok_iff hSound).mp hBytes
  constructor
  · rintro ⟨s, hParse, -⟩
    exact ((parseRequest_eq_ok_iff reads hSound hTimed hLength).mp hParse).1
  · intro hFits
    have hParse : parseRequest rules floats coercions (requestBytes rules floats r) = .ok (r.normal rules) :=
      (parseRequest_eq_ok_iff reads hSound hTimed hLength).mpr ⟨hFits, rfl⟩
    exact ⟨_, hParse, canonicalRequest_of_parse hParse⟩

theorem outputReadsBack_iff (reads : ReadsBack floats) {r : ForecastResponse} {b : Bytes}
    (valid : SchemaValid rules r) (hBytes : canonicalOutput rules floats r = .ok b) :
    OutputReadsBack rules floats coercions b ↔ Fits rules r ∧ Ascending rules r := by
  constructor
  · rintro ⟨s, hParse, -⟩
    exact ((parsed_output reads valid.sound hBytes).mp hParse).1
  · intro hKept
    have hParse : parseOutput rules floats coercions b = .ok (r.archived rules) :=
      (parsed_output reads valid.sound hBytes).mpr ⟨hKept, rfl⟩
    exact ⟨_, hParse, canonicalOutput_of_parse hParse⟩

/-- What is in order when it is archived is archived in its normal form. -/
theorem archived_eq_normalForm {r : ForecastResponse} (hash : IsFeatureHash r.provenance.featureSetHash)
    (timed : Timed r.payload) (ascending : Ascending rules r) : r.archived rules = r.normalForm rules := by
  rw [← ordered_archived hash timed]
  exact ((ordered_archived_iff hash).mpr ascending).symm

/-! ## Executions -/

/-- A run is stored for the response of its producer, once that response carries the time of completion. -/
theorem execute_stored {store : RunStore} {request : ForecastRequest}
    {retryIdentity : Except StoreError (Option String)} {preflight : Except StoreError (Option ForecastRun)}
    {producer : Except StoreError ForecastResponse} {completedAt : Except StoreError ParsedDateTime}
    {commit : ForecastRun → Committed} {response : ForecastResponse} {row : ForecastRun}
    (h : execute rules floats coercions sha256 store request retryIdentity preflight producer completedAt commit =
      .ok (response, some row)) :
    ∃ b identity key provisional completed, canonicalRequest rules floats request = .ok b ∧
      requestHash rules floats coercions sha256 b = .ok identity ∧ producer = .ok provisional ∧
      withDatabaseCompletionTime rules provisional completed = .ok response ∧
      runRow rules floats coercions sha256 store b identity key response = .ok row := by
  simp only [execute, bind_eq_ok_iff, mapError_eq_ok_iff] at h
  obtain ⟨b, hBytes, identity, hIdentity, key, -, existing, -, h⟩ := h
  cases existing with
  | some other =>
    rw [bind_eq_ok_iff] at h
    obtain ⟨again, -, h⟩ := h
    cases h
  | none =>
    simp only [bind_eq_ok_iff, mapError_eq_ok_iff] at h
    obtain ⟨provisional, hProduced, completed, -, finalized, hFinalized, candidate, hRow, h⟩ := h
    split at h
    · cases h
      exact ⟨b, identity, key, provisional, completed, hBytes, hIdentity, hProduced, hFinalized, hRow⟩
    · rw [bind_eq_ok_iff] at h
      obtain ⟨again, -, h⟩ := h
      cases h
    · cases h

/-- A retry whose row was found replays it. -/
theorem execute_found {store : RunStore} {request : ForecastRequest} {key : Option String} {row : ForecastRun}
    {producer : Except StoreError ForecastResponse} {completedAt : Except StoreError ParsedDateTime}
    {commit : ForecastRun → Committed} {b : Bytes} {identity : String}
    (hBytes : canonicalRequest rules floats request = .ok b)
    (hIdentity : requestHash rules floats coercions sha256 b = .ok identity) (again : ForecastResponse) :
    execute rules floats coercions sha256 store request (.ok key) (.ok (some row)) producer completedAt commit =
      .ok (again, none) ↔ replay rules floats coercions sha256 row b identity = .ok again := by
  rw [execute, hBytes, Except.mapError, ok_bind, hIdentity, Except.mapError, ok_bind, ok_bind, ok_bind]
  simp [bind_eq_ok_iff]

theorem exists_runHeaders (context : OpportunityContext) (opportunity : String) {r : ForecastResponse}
    (timed : Timed r.payload) : ∃ headers, runHeaders context opportunity r = .ok headers := by
  obtain ⟨hAsOf, -, hProvenance⟩ := ForecastResponse.timed_iff.mp timed
  obtain ⟨-, hGenerated, -, hAvailable⟩ := ForecastProvenance.timed_iff.mp hProvenance
  obtain ⟨asOf, hAsOf⟩ := Option.isSome_iff_exists.mp hAsOf
  obtain ⟨generated, hGenerated⟩ := Option.isSome_iff_exists.mp hGenerated
  obtain ⟨available, hAvailable⟩ := Option.isSome_iff_exists.mp hAvailable
  rw [runHeaders, asUtc_eq_ok_iff.mpr hAsOf, ok_bind, asUtc_eq_ok_iff.mpr hAvailable, ok_bind,
    asUtc_eq_ok_iff.mpr hGenerated, ok_bind]
  exact ⟨_, rfl⟩

/-- A run whose parts are accepted is stored. -/
theorem execute_inserts {store : RunStore} {request q : ForecastRequest} {key : Option String}
    {provisional finalized archived : ForecastResponse} {completed : ParsedDateTime} {b out : Bytes}
    {opportunity : String} (hBytes : canonicalRequest rules floats request = .ok b)
    (hParse : parseRequest rules floats coercions b = .ok q)
    (hFinalized : withDatabaseCompletionTime rules provisional completed = .ok finalized)
    (hAnswers : validateRequestResponse q finalized = .ok ⟨⟩)
    (hOutput : canonicalOutput rules floats finalized = .ok out)
    (hArchived : parseOutput rules floats coercions out = .ok archived)
    (hOpportunity : opportunityHash rules floats sha256 finalized store.context = .ok opportunity)
    (timed : Timed finalized.payload) :
    ∃ row, execute rules floats coercions sha256 store request (.ok key) (.ok none) (.ok provisional)
      (.ok completed) (fun _ => .inserted) = .ok (finalized, some row) := by
  obtain ⟨headers, hHeaders⟩ := exists_runHeaders store.context opportunity timed
  have hIdentity : requestHash rules floats coercions sha256 b = .ok (sha256 b) :=
    requestHash_eq_ok_iff.mpr ⟨⟨q, hParse⟩, rfl⟩
  have hHash : outputHash rules floats coercions sha256 out = .ok (sha256 out) :=
    outputHash_eq_ok_iff.mpr ⟨⟨archived, hArchived⟩, rfl⟩
  have hRow : ∃ row, runRow rules floats coercions sha256 store b (sha256 b) key finalized = .ok row := by
    rw [runRow, hParse, Except.mapError, ok_bind, hAnswers, ok_bind, hOutput, Except.mapError, ok_bind, hOpportunity,
      Except.mapError, ok_bind, hHash, Except.mapError, ok_bind, hHeaders, ok_bind]
    exact ⟨_, rfl⟩
  obtain ⟨row, hRow⟩ := hRow
  refine ⟨row, ?_⟩
  rw [execute, hBytes, Except.mapError, ok_bind, hIdentity, Except.mapError, ok_bind, ok_bind, ok_bind]
  dsimp only
  rw [ok_bind, ok_bind, hFinalized, Except.mapError, ok_bind, hRow, Except.mapError, ok_bind]
  rfl

theorem headersNormal_stamped {r : ForecastResponse} (completed : Instant) :
    HeadersNormal rules (r.stamped completed) ↔ HeadersNormal rules r :=
  ⟨fun h => ⟨h.snapshot, h.model, h.code, h.calibration⟩, fun h => ⟨h.snapshot, h.model, h.code, h.calibration⟩⟩

variable (rules floats coercions sha256)

/-- Requests and responses are read back from their bytes, and have the bytes of their normal forms, exactly
when their texts fit and stay in order; rearranging never changes the bytes; a stored run is replayed exactly
when the texts of its headers were in normal form. -/
theorem archived_runs_round_trip (reads : ReadsBack floats) :
    (∀ (r s : ForecastRequest) (b c : Bytes), RequestValid rules r → RequestValid rules s →
      canonicalRequest rules floats r = .ok b → canonicalRequest rules floats s = .ok c →
      (RequestReadsBack rules floats coercions b ∧ RequestReadsBack rules floats coercions c ∧
        (b = c ↔ r.normal rules = s.normal rules) ↔ RequestFits rules r ∧ RequestFits rules s)) ∧
    (∀ (r s : ForecastResponse) (b c : Bytes), SchemaValid rules r → SchemaValid rules s →
      canonicalOutput rules floats r = .ok b → canonicalOutput rules floats s = .ok c →
      (OutputReadsBack rules floats coercions b ∧ OutputReadsBack rules floats coercions c ∧
        (b = c ↔ r.normalForm rules = s.normalForm rules) ↔
          (Fits rules r ∧ Ascending rules r) ∧ Fits rules s ∧ Ascending rules s)) ∧
    (∀ (r s : ForecastRequest) (b : Bytes), RequestValid rules r → RequestRearranged r s →
      canonicalRequest rules floats r = .ok b → canonicalRequest rules floats s = .ok b) ∧
    (∀ (r s : ForecastResponse) (b : Bytes), SchemaValid rules r → Rearranged r s →
      canonicalOutput rules floats r = .ok b → canonicalOutput rules floats s = .ok b) ∧
    ∀ (store : RunStore) (request : ForecastRequest) (retryIdentity : Except StoreError (Option String))
      (preflight : Except StoreError (Option ForecastRun)) (provisional : ForecastResponse)
      (completedAt : Except StoreError ParsedDateTime) (commit : ForecastRun → Committed)
      (response : ForecastResponse) (row : ForecastRun), SchemaValid rules provisional →
      execute rules floats coercions sha256 store request retryIdentity preflight (.ok provisional) completedAt
        commit = .ok (response, some row) →
      ∀ (later : RunStore) (key : Option String) (producer : Except StoreError ForecastResponse)
        (clock : Except StoreError ParsedDateTime) (outcome : ForecastRun → Committed),
        (∃ again, execute rules floats coercions sha256 later request (.ok key) (.ok (some row)) producer clock
          outcome = .ok (again, none)) ↔ HeadersNormal rules provisional := by
  refine ⟨?_, ?_, ?_, ?_, ?_⟩
  · intro r s b c hr hs hb hc
    have hSame : b = c ↔ r.normal rules = s.normal rules := by
      obtain ⟨hTimed, rfl, -⟩ := (canonicalRequest_eq_ok_iff (validateRequest_sound hr)).mp hb
      obtain ⟨hOther, rfl, -⟩ := (canonicalRequest_eq_ok_iff (validateRequest_sound hs)).mp hc
      exact requestBytes_eq_iff coercions reads hTimed hOther
    rw [requestReadsBack_iff reads hr hb, requestReadsBack_iff reads hs hc]
    exact ⟨fun h => ⟨h.1, h.2.1⟩, fun h => ⟨h.1, h.2, hSame⟩⟩
  · intro r s b c hr hs hb hc
    rw [outputReadsBack_iff reads hr hb, outputReadsBack_iff reads hs hc]
    refine ⟨fun h => ⟨h.1, h.2.1⟩, fun h => ⟨h.1, h.2, ?_⟩⟩
    obtain ⟨hTimed, rfl, -⟩ := (canonicalOutput_eq_ok_iff hr.sound).mp hb
    obtain ⟨hOther, rfl, -⟩ := (canonicalOutput_eq_ok_iff hs.sound).mp hc
    rw [outputBytes_eq_iff coercions reads hTimed hOther,
      archived_eq_normalForm hr.sound.provenance.hash hTimed h.1.2,
      archived_eq_normalForm hs.sound.provenance.hash hOther h.2.2]
  · intro r s b hr hSame hb
    exact hSame.canonicalRequest_eq (validateRequest_sound hr) hb
  · intro r s b hr hSame hb
    exact hSame.canonicalOutput_eq hr.sound hb
  · intro store request retryIdentity preflight provisional completedAt commit response row hValid hStored later key
      producer clock outcome
    obtain ⟨b, identity, digest, produced, completed, hBytes, hIdentity, hProduced, hFinalized, hRow⟩ :=
      execute_stored hStored
    cases hProduced
    obtain ⟨hSound, time, rfl⟩ := withDatabaseCompletionTime_eq_ok hValid.sound hFinalized
    simp only [execute_found hBytes hIdentity, replay_runRow reads hBytes hIdentity hSound hRow,
      headersNormal_stamped, exists_and_left, exists_eq, and_true]

end RoundTrip

/-! ## The runs of a day -/

theorem readsBack_exact : ReadsBack ExactDecimal.floats :=
  fun q => ⟨ExactDecimal.int?_reprOf q.1, ExactDecimal.valueOf_reprOf q.2⟩

def strictInt : Document → Option Int
  | .int n => some n
  | _ => none

def strictFloat : Document → Option Double
  | .float q => if h : Float64.IsDouble q then some ⟨q, h⟩ else none
  | _ => none

def strictDatetime (d : Document) : Option ParsedDateTime := (readText d).bind ParsedDateTime.ofTimestamp

def strictDate (d : Document) : Option Date := (readText d).bind Date.fromisoformat

def strictUuid (d : Document) : Option Uuid := (readText d).bind (Uuid.ofText asciiDigits)

theorem strictInt_int (n : Int) : strictInt (.int n) = some n := rfl

theorem strictFloat_float (q : Double) : strictFloat (.float q.1) = some q := dif_pos q.2

theorem strictDatetime_timestamp (t : Instant) : strictDatetime (.plain t.timestamp) = some t.inUtc := by
  rw [strictDatetime, readText_plain, Option.bind_some, ParsedDateTime.ofTimestamp_timestamp]

theorem strictDate_isoformat (d : Date) : strictDate (.plain d.isoformat) = some d := by
  rw [strictDate, readText_plain, Option.bind_some, Date.fromisoformat_isoformat]

theorem strictUuid_text (u : Uuid) : strictUuid (.plain u.text) = some u := by
  rw [strictUuid, readText_plain, Option.bind_some, Uuid.ofText_text]

/-- The conversions of canonical spellings. -/
def strictCoercions : Coercions where
  int := strictInt
  float := strictFloat
  datetime := strictDatetime
  date := strictDate
  uuid := strictUuid
  int_int := strictInt_int
  float_float := strictFloat_float
  datetime_timestamp := strictDatetime_timestamp
  date_isoformat := strictDate_isoformat
  uuid_text := strictUuid_text

def sampleRequest : ForecastRequest where
  symbol := "SPY"
  horizon := 2
  horizonUnit := .tradingDay
  target := .close
  asOf := some (evening 3)
  snapshotId := some "snapshot-1"
  model := .baselineNaive
  intervalCoverages := [millesimal 500, millesimal 750]

def sampleStore : RunStore := ⟨sampleDigest, sampleDigest, "api"⟩

/-- The response with the time at which its run was completed. -/
def completedResponse : ForecastResponse := { sampleResponse with
  provenance := { sampleProvenance with
    generatedAt := evening 3
    lookaheadCheck := ⟨.passed, evening 3, evening 2, []⟩ } }

/-- The same instant an hour east. -/
def eastern (day : ℕ) : ParsedDateTime := ⟨january day, 79200000000, some 3600000000⟩

/-- The completed response in another order and at other offsets. -/
def rearrangedResponse : ForecastResponse :=
  { completedResponse with
    asOf := eastern 2
    forecasts := [sampleStep 1 470 List.reverse, sampleStep 2 471 List.reverse]
    provenance := { sampleProvenance with
      generatedAt := eastern 3
      dataSources := [⟨"polygon", "bars-1", evening 1, ["close"]⟩,
        ⟨"alpaca", "bars-2", eastern 2, ["volume", "close"]⟩]
      lookaheadCheck := ⟨.passed, evening 3, eastern 2, []⟩ }
    calibration := { sampleCalibration with byInterval := sampleCalibration.byInterval.reverse } }

/-- The request is valid and short, and its texts fit their columns. -/
theorem sampleRequest_checks : RequestValid asciiRules sampleRequest ∧ Timed sampleRequest.payload ∧
    (JsonText.write [] (toValue ExactDecimal.floats (wrapped "forecast-run-request-v1"
      ((sampleRequest.normal asciiRules).payload.document asciiRules)))).length ≤ 1048576 ∧
    RequestFits asciiRules sampleRequest := by
  rw [ForecastRequest.timed_iff]
  unfold RequestValid RequestFits
  decide +kernel

theorem sampleRequest_bytes : canonicalRequest asciiRules ExactDecimal.floats sampleRequest =
    .ok (requestBytes asciiRules ExactDecimal.floats sampleRequest) := by
  obtain ⟨hValid, hTimed, hWritten, -⟩ := sampleRequest_checks
  exact (canonicalRequest_eq_ok_iff (validateRequest_sound hValid)).mpr ⟨hTimed, rfl, bounded_of_write hWritten⟩

theorem sampleRequest_parsed : parseRequest asciiRules ExactDecimal.floats strictCoercions
    (requestBytes asciiRules ExactDecimal.floats sampleRequest) = .ok (sampleRequest.normal asciiRules) := by
  obtain ⟨hValid, hTimed, -, hFits⟩ := sampleRequest_checks
  have hSound := validateRequest_sound hValid
  obtain ⟨-, -, hLength⟩ := (canonicalRequest_eq_ok_iff hSound).mp sampleRequest_bytes
  exact (parseRequest_eq_ok_iff readsBack_exact hSound hTimed hLength).mpr ⟨hFits, rfl⟩

/-- The completed response is the schema's, and it answers the request. -/
theorem completed_checks :
    withDatabaseCompletionTime asciiRules sampleResponse (evening 3) = .ok completedResponse ∧
    validateRequestResponse (sampleRequest.normal asciiRules) completedResponse = .ok ⟨⟩ ∧
    Timed completedResponse.payload ∧
    (JsonText.write [] (toValue ExactDecimal.floats (wrapped "forecast-run-output-v1"
      ((completedResponse.archived asciiRules).payload.document asciiRules)))).length ≤ 1048576 := by
  rw [ForecastResponse.timed_iff, ForecastProvenance.timed_iff, LookaheadCheck.timed_iff]
  decide +kernel

theorem completedResponse_valid : SchemaValid asciiRules completedResponse :=
  ((withDatabaseCompletionTime_eq_ok samples_valid.1.sound completed_checks.1).1).validate

theorem completed_bytes : canonicalOutput asciiRules ExactDecimal.floats completedResponse =
    .ok (outputBytes asciiRules ExactDecimal.floats completedResponse) := by
  obtain ⟨-, -, hTimed, hWritten⟩ := completed_checks
  exact (canonicalOutput_eq_ok_iff completedResponse_valid.sound).mpr ⟨hTimed, rfl, bounded_of_write hWritten⟩

theorem completed_kept : Fits asciiRules completedResponse ∧ Ascending asciiRules completedResponse := by
  constructor
  · exact {
      snapshot := by decide +kernel
      model := by decide +kernel
      code := by decide +kernel
      sources := by decide +kernel
      calibration := by decide +kernel }
  · exact {
      violations := by decide +kernel
      fields := by decide +kernel
      sources := by decide +kernel }

theorem completed_opportunity : ∃ hash,
    opportunityHash asciiRules ExactDecimal.floats byteDigits completedResponse sampleStore.context = .ok hash := by
  obtain ⟨⟨m, hManifest⟩, -⟩ := sample_manifests
  have hRevalued : Revalued sampleResponse completedResponse :=
    ⟨rfl, .cons ⟨rfl, rfl, .refl _⟩ (.cons ⟨rfl, rfl, .refl _⟩ .nil), .refl _⟩
  have hSame : opportunityManifest asciiRules ExactDecimal.floats completedResponse sampleContext = .ok m :=
    hRevalued.agrees.manifest samples_valid.1.sound completedResponse_valid.sound hManifest
  refine ⟨byteDigits m, ?_⟩
  change opportunityHash asciiRules ExactDecimal.floats byteDigits completedResponse sampleContext = _
  rw [opportunityHash, hSame, ok_bind, pure_eq_ok]

theorem evening_again : (∀ day, day < 5 → SameInstant (evening day) (evening day)) ∧
    SameInstant (evening 2) (eastern 2) ∧ SameInstant (evening 3) (eastern 3) := by
  unfold SameInstant
  decide +kernel

theorem sample_rearranged : Rearranged completedResponse rearrangedResponse := by
  obtain ⟨hSame, hSecond, hThird⟩ := evening_again
  exact {
    symbol := rfl
    target := rfl
    horizon := rfl
    horizonUnit := rfl
    asOf := hSecond
    currency := rfl
    steps := .cons ⟨rfl, hSame 3 (by decide), rfl, List.Perm.refl _, List.reverse_perm _⟩
      (.cons ⟨rfl, hSame 4 (by decide), rfl, List.Perm.refl _, List.reverse_perm _⟩ .nil)
    forecastId := rfl
    snapshotId := rfl
    modelVersion := rfl
    seriesBasis := rfl
    featureSetHash := rfl
    maxAvailableAt := hSame 2 (by decide)
    generatedAt := hThird
    codeVersion := rfl
    sources := ⟨completedResponse.provenance.dataSources.reverse, List.reverse_perm _,
      .cons ⟨rfl, rfl, hSame 1 (by decide), List.Perm.refl _⟩
        (.cons ⟨rfl, rfl, hSecond, List.Perm.swap _ _ _⟩ .nil)⟩
    status := rfl
    checkedAt := hSame 3 (by decide)
    feature := hSecond
    violations := List.Perm.refl _
    calibrationSetVersion := rfl
    method := rfl
    windowStart := rfl
    windowEnd := rfl
    sampleCount := rfl
    byInterval := List.reverse_perm _
    disclaimer := rfl }

/-- A request and a response are read back, a rearranged response has the same bytes, and a stored run is
replayed. -/
theorem archived_runs_round_trip_sample :
    (∃ b, canonicalRequest asciiRules ExactDecimal.floats sampleRequest = .ok b ∧
      RequestReadsBack asciiRules ExactDecimal.floats strictCoercions b) ∧
    (∃ b, canonicalOutput asciiRules ExactDecimal.floats completedResponse = .ok b ∧
      OutputReadsBack asciiRules ExactDecimal.floats strictCoercions b ∧
      canonicalOutput asciiRules ExactDecimal.floats rearrangedResponse = .ok b) ∧
    ∃ row, execute asciiRules ExactDecimal.floats strictCoercions byteDigits sampleStore sampleRequest (.ok none)
        (.ok none) (.ok sampleResponse) (.ok (evening 3)) (fun _ => .inserted) =
          .ok (completedResponse, some row) ∧
      ∃ again, execute asciiRules ExactDecimal.floats strictCoercions byteDigits sampleStore sampleRequest
        (.ok none) (.ok (some row)) (.ok sampleResponse) (.ok (evening 4)) (fun _ => .inserted) =
          .ok (again, none) := by
  obtain ⟨hRequests, hResponses, -, hRearranged, hRuns⟩ :=
    archived_runs_round_trip asciiRules ExactDecimal.floats strictCoercions byteDigits readsBack_exact
  obtain ⟨hValid, -, -, hFits⟩ := sampleRequest_checks
  have hRequest := (hRequests _ _ _ _ hValid hValid sampleRequest_bytes sampleRequest_bytes).mpr ⟨hFits, hFits⟩
  have hResponse := (hResponses _ _ _ _ completedResponse_valid completedResponse_valid completed_bytes
    completed_bytes).mpr ⟨completed_kept, completed_kept⟩
  obtain ⟨archived, hArchived, -⟩ := hResponse.1
  obtain ⟨opportunity, hOpportunity⟩ := completed_opportunity
  obtain ⟨hCompleted, hAnswers, hTimed, -⟩ := completed_checks
  obtain ⟨row, hStored⟩ := execute_inserts sampleRequest_bytes sampleRequest_parsed hCompleted hAnswers
    completed_bytes hArchived hOpportunity hTimed
  have hNormal : HeadersNormal asciiRules sampleResponse := ⟨rfl, rfl, rfl, rfl⟩
  exact ⟨⟨_, sampleRequest_bytes, hRequest.1⟩,
    ⟨_, completed_bytes, hResponse.1, hRearranged _ _ _ completedResponse_valid sample_rearranged completed_bytes⟩,
    row, hStored, (hRuns _ _ _ _ _ _ _ _ _ samples_valid.1 hStored _ _ _ _ _).mpr hNormal⟩

def kelvinSign : String := String.ofList [Char.ofNat 0x212a]

/-- A source whose fields are in order until the sign of the kelvin becomes a letter. -/
def unsortedResponse : ForecastResponse :=
  { sampleResponse with provenance := { sampleProvenance with
      dataSources := [⟨"alpaca", "bars-2", evening 2, ["L", kelvinSign]⟩] } }

/-- The bytes of a valid response are refused by their own parser. -/
theorem unsorted_not_read_back : SchemaValid composedRules unsortedResponse ∧
    ∃ b, canonicalOutput composedRules ExactDecimal.floats unsortedResponse = .ok b ∧
      ∀ r, parseOutput composedRules ExactDecimal.floats strictCoercions b ≠ .ok r := by
  have hValid : SchemaValid composedRules unsortedResponse := by
    unfold SchemaValid
    decide +kernel
  have hTimed : Timed unsortedResponse.payload := by
    rw [ForecastResponse.timed_iff, ForecastProvenance.timed_iff, LookaheadCheck.timed_iff]
    decide +kernel
  have hWritten : (JsonText.write [] (toValue ExactDecimal.floats (wrapped "forecast-run-output-v1"
      ((unsortedResponse.archived composedRules).payload.document composedRules)))).length ≤ 1048576 := by
    decide +kernel
  have hBytes : canonicalOutput composedRules ExactDecimal.floats unsortedResponse =
      .ok (outputBytes composedRules ExactDecimal.floats unsortedResponse) :=
    (canonicalOutput_eq_ok_iff hValid.sound).mpr ⟨hTimed, rfl, bounded_of_write hWritten⟩
  refine ⟨hValid, _, hBytes, ?_⟩
  intro r hParse
  obtain ⟨⟨-, hAscending⟩, -⟩ := (parsed_output readsBack_exact hValid.sound hBytes).mp hParse
  exact absurd (hAscending.fields _ List.mem_cons_self) (by decide +kernel)

end StockApi.Forecasts

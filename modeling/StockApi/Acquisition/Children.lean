import StockApi.Acquisition.Writers

/-!
# Reservations and outcomes are accepted

`reserve_call` and `finish_call` find their header by a search over the file. On a ledger the
validator accepts, that search agrees with the validator's own header table.
-/

namespace StockApi.Acquisition

open Checked CivilTime

variable {δ : Type} [DecidableEq δ] [ContentHash δ]
  {records : List (Json δ)} {scan : LedgerScan δ}

/-! ## The header and its calls -/

/-- The header a child operation works under, with the identities it was found by. -/
structure HeaderFound (scan : LedgerScan δ) (authorizationId planId : Text δ) (header : Json δ)
    (ids : RecordIds δ) (calls : List AcquisitionCall) : Prop where
  authorization : authorizationId = .plain ids.authorizationId
  pattern : matchesAuthorizationId ids.authorizationId = true
  plan : planId = .digest ids.planId
  found : scan.headers ids.authorizationId = some header
  headerPlan : header.field "plan_id" = hash ids.planId
  headerCampaign : header.field "campaign_id" = hash ids.campaignId
  decoded : headerCalls header = .ok calls
  ordered : validateCallOrder calls = .ok ⟨⟩

theorem Describes.oneHeader (d : Describes records scan) {authorizationId planId : Text δ}
    {header : Json δ} (h : oneHeader records authorizationId planId = .ok header) :
    ∃ ids calls, HeaderFound scan authorizationId planId header ids calls := by
  unfold Acquisition.oneHeader at h
  split at h
  · rename_i found hFilter
    cases h
    have hMem : header ∈ records.filter fun r => isRecord .authorization r &&
        decide (r.field "authorization_id" = .str authorizationId ∧
          r.field "plan_id" = .str planId) := by
      rw [hFilter]
      exact List.mem_singleton_self _
    obtain ⟨hRecord, hTest⟩ := List.mem_filter.mp hMem
    rw [Bool.and_eq_true, decide_eq_true_eq] at hTest
    obtain ⟨hKind, hAuth, hPlan⟩ := hTest
    obtain ⟨a, hFound, ids, calls, scope, c, tagged, rfl, hHeader, -⟩ := d.knownHeader hRecord hKind
    obtain ⟨items, hItems, hCalls⟩ := hHeader.decoded
    refine ⟨ids, calls, ?_, tagged.pattern, ?_, hFound, tagged.plan, tagged.campaign, ?_,
      hHeader.ordered⟩
    · have hEq := hAuth.symm.trans tagged.authorization
      simpa [text] using hEq
    · have hEq := hPlan.symm.trans tagged.plan
      simpa [hash] using hEq
    · rw [headerCalls, hItems]
      exact hCalls
  · cases h

variable {ids : RecordIds δ} {header : Json δ} {calls : List AcquisitionCall}
  {authorizationId planId : Text δ}

/-- The children of an authorization all name the plan of its header. -/
theorem HeaderFound.child_plan (found : HeaderFound scan authorizationId planId header ids calls)
    (d : Describes records scan) {r : Json δ} (hMem : r ∈ records) {kind : RecordType}
    (hKind : isRecord kind r = true) (hChild : kind ≠ .authorization)
    (hAuth : r.field "authorization_id" = text ids.authorizationId) :
    r.field "plan_id" = hash ids.planId := by
  obtain ⟨-, kind', rids, tagged⟩ := d.tagged r hMem
  rw [isRecord_of_type tagged.type, decide_eq_true_eq] at hKind
  have hNot : isRecord .authorization r = false := by
    rw [isRecord_of_type tagged.type, hKind]
    simpa using hChild
  obtain ⟨cids, h, ccalls, i, hChildAuth, hPlan, -, hFound, hHeaderPlan, -⟩ := d.child r hMem hNot
  rw [hAuth, text_inj] at hChildAuth
  rw [← hChildAuth, found.found] at hFound
  cases hFound
  rw [hPlan, ← hHeaderPlan, found.headerPlan]

theorem HeaderFound.children_eq (found : HeaderFound scan authorizationId planId header ids calls)
    (d : Describes records scan) {kind : RecordType} (hChild : kind ≠ .authorization) :
    records.filter (fun r => isRecord kind r &&
      decide (r.field "authorization_id" = .str authorizationId ∧ r.field "plan_id" = .str planId)) =
      ofAuthorization kind records ids.authorizationId := by
  rw [found.authorization, found.plan]
  apply List.filter_congr
  intro r hMem
  by_cases hTest : isRecord kind r = true ∧ r.field "authorization_id" = text ids.authorizationId
  · have hPlan := found.child_plan d hMem hTest.1 hChild hTest.2
    simp only [hTest.1, hTest.2, hPlan, hash, text, and_self, decide_true]
  · by_cases hKind : isRecord kind r = true
    · have hAuth : ¬ r.field "authorization_id" = text ids.authorizationId :=
        fun h => hTest ⟨hKind, h⟩
      simp only [text] at hAuth
      simp [hKind, hAuth, text]
    · simp [hKind]

/-- A valid call list names no call twice. -/
theorem calls_nodup (h : validateCallOrder calls = .ok ⟨⟩) : calls.Nodup := by
  rw [validateCallOrder, refuseIf_bind_eq_ok_iff, refuseIf_bind_eq_ok_iff, refuseIf_bind_eq_ok_iff,
    refuseIf_eq_ok_iff, not_lt, not_lt] at h
  obtain ⟨-, hSplit, hDividend, hDates⟩ := h
  rw [ne_eq, not_not] at hDates
  rw [List.nodup_iff_count_le_one]
  intro call
  cases hKind : call.kind with
  | splitPage =>
    refine le_trans ?_ hSplit
    exact List.countP_mono_left fun c _ hc => by simp_all
  | dividendPage =>
    refine le_trans ?_ hDividend
    exact List.countP_mono_left fun c _ hc => by simp_all
  | openClose =>
    have hSorted : ((calls.filter (·.kind = .openClose)).map (·.start)).Pairwise (· < ·) :=
      Dict.sortedSet_eq_self_iff.mp hDates.symm
    have hNodup : (calls.filter (·.kind = .openClose)).Nodup :=
      List.Nodup.of_map _ (hSorted.imp ne_of_lt)
    rw [← List.count_filter (p := fun c => decide (c.kind = .openClose)) (by simpa using hKind)]
    exact List.nodup_iff_count_le_one.mp hNodup call

omit [DecidableEq δ] in
theorem callIds_nodup (free : CollisionFree δ) (h : validateCallOrder calls = .ok ⟨⟩) :
    (calls.map fun c => (c.callId : δ)).Nodup :=
  (calls_nodup h).map (AcquisitionCall.callId_injective free)

theorem callMap_eq (free : CollisionFree δ) (h : validateCallOrder calls = .ok ⟨⟩) :
    callMap (δ := δ) calls = calls.map fun c => (c.callId, c) := by
  apply Dict.ofEntries_of_nodup
  simpa [List.map_map, Function.comp_def] using callIds_nodup (δ := δ) free h

theorem callMap_values (free : CollisionFree δ) (h : validateCallOrder calls = .ok ⟨⟩) :
    (callMap (δ := δ) calls).map Prod.snd = calls := by
  rw [callMap_eq free h, List.map_map]
  exact List.map_id _

theorem callMap_lookup (free : CollisionFree δ) (h : validateCallOrder calls = .ok ⟨⟩)
    {call : AcquisitionCall} (hMem : call ∈ calls) :
    (callMap (δ := δ) calls).lookup call.callId = some call := by
  have hKeys : ((calls.map fun c => ((c.callId : δ), c)).map Prod.fst).Nodup := by
    simpa [List.map_map, Function.comp_def] using callIds_nodup (δ := δ) free h
  rw [callMap_eq free h, Dict.lookup_eq_some_iff hKeys]
  exact List.mem_map.mpr ⟨call, hMem, rfl⟩

/-- The attempted calls of an authorization are calls of its header. -/
theorem HeaderFound.attempt_listed (free : CollisionFree δ) (d : Describes records scan)
    (found : HeaderFound scan authorizationId planId header ids calls) {call : AcquisitionCall}
    {r : Json δ} (hMem : r ∈ ofAuthorization .attempt records ids.authorizationId)
    (hCall : r.field "call_id" = hash call.callId) : call ∈ calls := by
  obtain ⟨hRecord, hKind, hAuth⟩ := mem_ofAuthorization.mp hMem
  obtain ⟨-, kind, rids, tagged⟩ := d.tagged r hRecord
  rw [isRecord_of_type tagged.type, decide_eq_true_eq] at hKind
  have hNot : isRecord .authorization r = false := by
    rw [isRecord_of_type tagged.type, hKind]
    rfl
  obtain ⟨cids, h, ccalls, i, hChildAuth, -, -, hFound, -, -, hDecoded, hListed, hId⟩ :=
    d.child r hRecord hNot
  rw [hAuth, text_inj] at hChildAuth
  rw [← hChildAuth, found.found] at hFound
  cases hFound
  rw [found.decoded] at hDecoded
  cases hDecoded
  rw [hCall, hash_inj] at hId
  subst hId
  obtain ⟨c, hc⟩ := Option.isSome_iff_exists.mp hListed
  have hKeys : ((calls.map fun c => ((c.callId : δ), c)).map Prod.fst).Nodup := by
    simpa [List.map_map, Function.comp_def] using callIds_nodup (δ := δ) free found.ordered
  rw [callMap_eq free found.ordered, Dict.lookup_eq_some_iff hKeys] at hc
  obtain ⟨c', hMem', hEq⟩ := List.mem_map.mp hc
  rwa [← AcquisitionCall.callId_injective free (Prod.mk.inj hEq).1]

/-- A call that the header allows is one of its calls. -/
theorem mem_of_allowed (free : CollisionFree δ) (h : validateCallOrder calls = .ok ⟨⟩)
    {call : AcquisitionCall}
    (hAllowed : (Dict.ofEntries (calls.map fun c =>
      ((c.callId : δ), (c.ledgerDocument : Json δ)))).lookup call.callId =
        some call.ledgerDocument) : call ∈ calls := by
  have hKeys : ((calls.map fun c => ((c.callId : δ), (c.ledgerDocument : Json δ))).map
      Prod.fst).Nodup := by
    simpa [List.map_map, Function.comp_def] using callIds_nodup (δ := δ) free h
  rw [Dict.ofEntries_of_nodup hKeys, Dict.lookup_eq_some_iff hKeys] at hAllowed
  obtain ⟨c, hMem, hEq⟩ := List.mem_map.mp hAllowed
  rwa [← AcquisitionCall.callId_injective free (Prod.mk.inj hEq).1]

/-- A call of the header, seen as the call a child record names. -/
theorem HeaderFound.childRecord (free : CollisionFree δ)
    (found : HeaderFound scan authorizationId planId header ids calls) {call : AcquisitionCall}
    (hMem : call ∈ calls) {record : Json δ} (hId : record.field "call_id" = hash call.callId)
    (hKind : record.field "call_kind" = text call.kind.name) :
    ChildRecord scan record ids header calls ⟨calls, call.callId, call⟩ where
  found := found.found
  plan := found.headerPlan
  campaign := found.headerCampaign
  decoded := found.decoded
  ordered := (callMap_values free found.ordered).symm
  identified := hId
  listed := callMap_lookup free found.ordered hMem
  typed := hKind

/-! ## Reservations -/

/-- What a successful `reserve_call` has checked. -/
structure AttemptReserved (records : List (Json δ)) (authorizationId planId : Text δ)
    (call : AcquisitionCall) (header : Json δ) (calls : List AcquisitionCall)
    (state : CampaignLedgerState δ) (record : Json δ) : Prop where
  under : oneHeader records authorizationId planId = .ok header
  decoded : headerCalls header = .ok calls
  allowed : (Dict.ofEntries (calls.map fun c =>
    ((c.callId : δ), (c.ledgerDocument : Json δ)))).lookup call.callId = some call.ledgerDocument
  fresh : ∀ r ∈ authorizationAttempts records authorizationId planId,
    r.field "call_id" ≠ hash call.callId
  actions : ∀ i ∈ earlierActionIds (δ := δ) calls
      (((callPositions (δ := δ) calls).lookup call.callId).getD 0),
    ∃ r ∈ authorizationAttempts records authorizationId planId, r.field "call_id" = hash i
  later : ∀ r ∈ authorizationAttempts records authorizationId planId,
    recordPosition (callPositions (δ := δ) calls) r <
      ((callPositions (δ := δ) calls).lookup call.callId).getD 0
  counted : ∃ campaignId, header.field "campaign_id" = hash campaignId ∧
    campaignStateFromRecords records campaignId (header.field "campaign_scope") = .ok state
  room : state.reservedCalls < state.authorizedCalls
  document : ∃ stamp, (∃ t, parseLedgerTimestamp stamp = .ok t) ∧
    record = attemptDocument authorizationId planId (header.field "campaign_id")
      ((authorizationAttempts records authorizationId planId).length + 1)
      (state.reservedCalls + 1) call stamp

theorem attemptRecord_eq_ok {now : Option Instant} {call : AcquisitionCall} {file : LedgerFile δ}
    {record : Json δ} {number : Int}
    (h : attemptRecord now authorizationId planId call file = .ok (record, number)) :
    ∃ scan header calls state, validateRecords file.lines = .ok scan ∧
      AttemptReserved file.lines authorizationId planId call header calls state record := by
  rw [attemptRecord, bind_eq_ok_iff] at h
  obtain ⟨records, hRead, h⟩ := h
  obtain ⟨rfl, scan, hScan⟩ := readRecords_eq_ok hRead
  rw [bind_eq_ok_iff] at h
  obtain ⟨header, hHeader, h⟩ := h
  rw [bind_eq_ok_iff] at h
  obtain ⟨campaignId, hCampaign, h⟩ := h
  rw [bind_eq_ok_iff] at h
  obtain ⟨calls, hCalls, h⟩ := h
  rw [refuseIf_bind_eq_ok_iff, refuseIf_bind_eq_ok_iff, refuseIf_bind_eq_ok_iff,
    refuseIf_bind_eq_ok_iff, refuseIf_bind_eq_ok_iff, bind_eq_ok_iff] at h
  obtain ⟨hAllowed, hFresh, hActions, hLater, -, state, hState, h⟩ := h
  rw [refuseIf_bind_eq_ok_iff, bind_eq_ok_iff] at h
  obtain ⟨hRoom, stamp, hStamp, h⟩ := h
  rw [pure_eq_ok] at h
  cases h
  rw [ne_eq, not_not] at hAllowed
  rw [not_not] at hActions
  exact ⟨scan, header, calls, state, hScan, {
    under := hHeader
    decoded := hCalls
    allowed := hAllowed
    fresh := by
      intro r hr hEq
      exact hFresh (List.any_eq_true.mpr ⟨r, hr, by simpa using hEq⟩)
    actions := by
      intro i hi
      obtain ⟨r, hr, hEq⟩ := List.mem_map.mp (hActions i hi)
      exact ⟨r, hr, hEq⟩
    later := by
      intro r hr
      by_contra hLe
      exact hLater ⟨r, hr, not_lt.mp hLe⟩
    counted := ⟨campaignId, digest?_eq_some_iff.mp (orRefuse_eq_ok_iff.mp hCampaign), hState⟩
    room := not_le.mp hRoom
    document := ⟨stamp, parseLedgerTimestamp_awareIso hStamp, rfl⟩ }⟩

theorem AttemptReserved.accepted (free : CollisionFree δ) (d : Describes records scan)
    {call : AcquisitionCall} {state : CampaignLedgerState δ} {record : Json δ}
    (reserved : AttemptReserved records authorizationId planId call header calls state record) :
    ∃ scan', validateRecord scan record = .ok scan' := by
  obtain ⟨ids, calls', found⟩ := d.oneHeader reserved.under
  have hCalls : calls = calls' := Except.ok.inj (reserved.decoded.symm.trans found.decoded)
  subst hCalls
  have hAttempts : authorizationAttempts records authorizationId planId =
      ofAuthorization .attempt records ids.authorizationId :=
    found.children_eq d (by decide)
  have hMem := mem_of_allowed free found.ordered reserved.allowed
  obtain ⟨campaignId, hCampaign, hState⟩ := reserved.counted
  have hSame : campaignId = ids.campaignId := hash_inj.mp (hCampaign.symm.trans found.headerCampaign)
  subst hSame
  have hScope : ids.campaignId = contentId (header.field "campaign_scope") := by
    by_contra hNe
    rw [campaignStateFromRecords, if_pos hNe] at hState
    cases hState
  obtain ⟨state', hState', view⟩ := d.campaignState free (header.field "campaign_scope")
  rw [← hScope, hState] at hState'
  cases hState'
  obtain ⟨stamp, hStamp, hRecord⟩ := reserved.document
  rw [found.authorization, found.plan, found.headerCampaign] at hRecord
  have hFields : ∀ key, record.field key = (attemptDocument (.plain ids.authorizationId)
      (.digest ids.planId) (hash ids.campaignId)
      ((authorizationAttempts records authorizationId planId).length + 1) (state.reservedCalls + 1)
      call stamp).field key := fun key => by rw [hRecord, found.authorization, found.plan]
  have hTagged : WellTagged record .attempt ids := {
    type := hFields _
    authorization := hFields _
    pattern := found.pattern
    plan := hFields _
    campaign := hFields _
    keys := by
      rw [hRecord]
      simp [attemptDocument, Json.HasKeys, Json.isObject, Json.keys, RecordType.schema]
    version := by
      rw [hFields]
      exact Json.pyEq_refl _ }
  have hChild : ChildRecord scan record ids header calls ⟨calls, call.callId, call⟩ :=
    found.childRecord free hMem (hFields _) (hFields _)
  have hConditions : AttemptRecord scan record ids ⟨calls, call.callId, call⟩
      (ChildCall.position (δ := δ) ⟨calls, call.callId, call⟩) := by
    refine ⟨?_, ?_, ?_, ?_, hFields _, hFields _, hFields _, hFields _, ?_, ?_⟩
    · rw [d.attempts, ← hAttempts]
      rintro ⟨r, hr, hEq⟩
      exact reserved.fresh r hr hEq
    · rw [hFields, d.counts, ← hAttempts]
      rfl
    · rw [hFields, hScope, ← view.reservedCalls]
      rfl
    · rw [hScope, ← view.reservedCalls, ← view.authorizedCalls]
      exact reserved.room
    · rcases d.lastPosition ids.authorizationId with hNone | ⟨h, hCalls', r, hFound, hDecoded, hr, hLast⟩
      · rw [hNone]
        omega
      · rw [found.found] at hFound
        cases hFound
        rw [found.decoded] at hDecoded
        cases hDecoded
        rw [callMap_values free found.ordered] at hLast
        rw [hLast]
        exact_mod_cast reserved.later r (by rwa [hAttempts])
    · intro i hi
      obtain ⟨r, hr, hEq⟩ := reserved.actions i hi
      exact (d.attempts _ _).mpr ⟨r, by rwa [← hAttempts], hEq⟩
  refine ⟨_, validateRecord_eq_ok_iff.mpr ⟨.attempt, ids, hTagged,
    validateAttempt_eq_ok_iff.mpr ⟨header, calls, _, hChild, hConditions, ?_, rfl⟩⟩⟩
  rw [hFields]
  exact hStamp

/-! ## Outcomes -/

/-- What a successful `finish_call` has checked. -/
structure OutcomeRecorded (records : List (Json δ)) (authorizationId planId : Text δ)
    (call : AcquisitionCall) (status : Text δ) (evidenceId failureType : Option (Text δ))
    (header record : Json δ) : Prop where
  arguments : finishArguments status evidenceId failureType = .ok ⟨⟩
  under : oneHeader records authorizationId planId = .ok header
  attempt : ∃ r ∈ authorizationAttempts records authorizationId planId,
    r.field "call_id" = hash call.callId
  unfinished : ∀ r ∈ records, isRecord .outcome r = true →
    r.field "authorization_id" = .str authorizationId → r.field "plan_id" = .str planId →
    r.field "call_id" ≠ hash call.callId
  document : ∃ stamp, (∃ t, parseLedgerTimestamp stamp = .ok t) ∧
    record = outcomeDocument authorizationId planId (header.field "campaign_id") call status evidenceId
      failureType stamp

theorem outcomeRecord_eq_ok {now : Option Instant} {call : AcquisitionCall} {status : Text δ}
    {evidenceId failureType : Option (Text δ)} {file : LedgerFile δ} {record : Json δ} {result : Unit}
    (h : outcomeRecord now authorizationId planId call status evidenceId failureType file =
      .ok (record, result)) :
    ∃ scan header, validateRecords file.lines = .ok scan ∧
      OutcomeRecorded file.lines authorizationId planId call status evidenceId failureType header
        record := by
  rw [outcomeRecord, bind_eq_ok_iff] at h
  obtain ⟨_, hArguments, h⟩ := h
  rw [bind_eq_ok_iff] at h
  obtain ⟨records, hRead, h⟩ := h
  obtain ⟨rfl, scan, hScan⟩ := readRecords_eq_ok hRead
  rw [bind_eq_ok_iff] at h
  obtain ⟨header, hHeader, h⟩ := h
  rw [refuseIf_bind_eq_ok_iff, bind_eq_ok_iff] at h
  obtain ⟨hOpen, stamp, hStamp, h⟩ := h
  rw [pure_eq_ok] at h
  cases h
  rw [not_or, not_not, not_not] at hOpen
  obtain ⟨hOne, hNone⟩ := hOpen
  obtain ⟨r, hr⟩ := List.length_eq_one_iff.mp hOne
  have hMem : r ∈ (authorizationAttempts file.lines authorizationId planId).filter fun r =>
      decide (r.field "call_id" = hash call.callId) := by simp [hr]
  obtain ⟨hAttempt, hCall⟩ := List.mem_filter.mp hMem
  refine ⟨scan, header, hScan, hArguments, hHeader, ⟨r, hAttempt, by simpa using hCall⟩, ?_,
    ⟨stamp, parseLedgerTimestamp_awareIso hStamp, rfl⟩⟩
  intro o ho hKind hAuth hPlan hId
  have hIn : o ∈ ([] : List (Json δ)) := by
    rw [← hNone]
    exact List.mem_filter.mpr ⟨ho, by simp [hKind, hAuth, hPlan, hId]⟩
  cases hIn

omit [DecidableEq δ] [ContentHash δ] in
theorem optionalText_eq_null_iff {t : Option (Text δ)} : optionalText t = .null ↔ t = none := by
  cases t <;> simp [optionalText]

omit [ContentHash δ] in
/-- The arguments `finish_call` lets through are the details the validator accepts. -/
theorem outcomeDetail_of_arguments {status : Text δ} {evidenceId failureType : Option (Text δ)}
    {record : Json δ} (h : finishArguments status evidenceId failureType = .ok ⟨⟩)
    (hStatus : record.field "status" = .str status)
    (hEvidence : record.field "evidence_id" = optionalText evidenceId)
    (hFailure : record.field "failure_type" = optionalText failureType) :
    isOutcomeStatus (record.field "status") = true ∧ outcomeDetail record = .ok ⟨⟩ := by
  rw [finishArguments] at h
  rw [outcomeDetail, hStatus, hEvidence, hFailure]
  by_cases hKind : (.str status : Json δ) = text checkpointed
  · rw [if_pos hKind, refuseIf_eq_ok_iff, not_or, not_not] at h
    rw [if_pos hKind, refuseIf_eq_ok_iff, not_or, not_not, optionalText_eq_null_iff]
    exact ⟨by simp [isOutcomeStatus, hKind], h⟩
  · rw [if_neg hKind, refuseIf_eq_ok_iff, not_or, not_or, not_not] at h
    rw [if_neg hKind, refuseIf_eq_ok_iff, not_or, not_not, optionalText_eq_null_iff]
    exact ⟨by simpa using h.1, h.2⟩

theorem OutcomeRecorded.accepted (free : CollisionFree δ) (d : Describes records scan)
    {call : AcquisitionCall} {status : Text δ} {evidenceId failureType : Option (Text δ)}
    {record : Json δ}
    (recorded : OutcomeRecorded records authorizationId planId call status evidenceId failureType
      header record) : ∃ scan', validateRecord scan record = .ok scan' := by
  obtain ⟨ids, calls, found⟩ := d.oneHeader recorded.under
  have hAttempts : authorizationAttempts records authorizationId planId =
      ofAuthorization .attempt records ids.authorizationId :=
    found.children_eq d (by decide)
  obtain ⟨r, hr, hCall⟩ := recorded.attempt
  rw [hAttempts] at hr
  have hKey : (ids.authorizationId, (call.callId : δ)) ∈ scan.attempts :=
    (d.attempts _ _).mpr ⟨r, hr, hCall⟩
  have hMem : call ∈ calls := found.attempt_listed free d hr hCall
  obtain ⟨stamp, hStamp, hRecord⟩ := recorded.document
  rw [found.authorization, found.plan, found.headerCampaign] at hRecord
  have hFields : ∀ key, record.field key = (outcomeDocument (.plain ids.authorizationId)
      (.digest ids.planId) (hash ids.campaignId) call status evidenceId failureType stamp).field key :=
    fun key => by rw [hRecord]
  have hTagged : WellTagged record .outcome ids := {
    type := hFields _
    authorization := hFields _
    pattern := found.pattern
    plan := hFields _
    campaign := hFields _
    keys := by
      rw [hRecord]
      simp [outcomeDocument, Json.HasKeys, Json.isObject, Json.keys, RecordType.schema]
    version := by
      rw [hFields]
      exact Json.pyEq_refl _ }
  have hChild : ChildRecord scan record ids header calls ⟨calls, call.callId, call⟩ :=
    found.childRecord free hMem (hFields _) (hFields _)
  obtain ⟨hStatus, hDetail⟩ := outcomeDetail_of_arguments recorded.arguments (hFields _) (hFields _)
    (hFields _)
  have hOpen : (ids.authorizationId, (call.callId : δ)) ∉ scan.outcomes := by
    rw [d.outcomes]
    rintro ⟨o, ho, hId⟩
    obtain ⟨hIn, hKind, hAuth⟩ := mem_ofAuthorization.mp ho
    have hPlan := found.child_plan d hIn hKind (by decide) hAuth
    exact recorded.unfinished o hIn hKind (by rw [hAuth, found.authorization]; rfl)
      (by rw [hPlan, found.plan]; rfl) hId
  refine ⟨_, validateRecord_eq_ok_iff.mpr ⟨.outcome, ids, hTagged,
    validateOutcome_eq_ok_iff.mpr ⟨header, calls, _, hChild, hKey, hOpen, hStatus, hDetail, ?_, rfl⟩⟩⟩
  rw [hFields]
  exact hStamp

end StockApi.Acquisition

import StockApi.Acquisition.Ledger

/-!
# What the validator knows about an accepted ledger

`Describes` relates the scan to the records it has read. One record preserves it, so every
accepted ledger is described by its scan; the writers and the campaign state are then read
against the scan instead of the file.
-/

namespace StockApi.Acquisition

open Checked CivilTime

variable {δ : Type} [DecidableEq δ] [ContentHash δ]

/-! ## The validator, record by record -/

/-- The type and the identities a record was accepted with. -/
structure Tagged (record : Json δ) (kind : RecordType) (ids : RecordIds δ) : Prop where
  type : record.field "record_type" = text kind.name
  authorization : record.field "authorization_id" = text ids.authorizationId
  pattern : matchesAuthorizationId ids.authorizationId = true
  plan : record.field "plan_id" = hash ids.planId
  campaign : record.field "campaign_id" = hash ids.campaignId

omit [DecidableEq δ] [ContentHash δ] in
theorem RecordType.ofName_eq_some_iff {value : Json δ} {kind : RecordType} :
    RecordType.ofName value = some kind ↔ value = text kind.name := by
  constructor
  · intro h
    unfold RecordType.ofName at h
    split at h <;> cases h <;> rfl
  · rintro rfl
    cases kind <;> rfl

omit [DecidableEq δ] [ContentHash δ] in
theorem recordIds_eq_some_iff {record : Json δ} {ids : RecordIds δ} :
    recordIds record = some ids ↔
      (record.field "authorization_id" = text ids.authorizationId ∧
        matchesAuthorizationId ids.authorizationId = true) ∧
      record.field "plan_id" = hash ids.planId ∧ record.field "campaign_id" = hash ids.campaignId := by
  obtain ⟨authorizationId, planId, campaignId⟩ := ids
  simp only [recordIds, Option.bind_eq_bind, Option.bind_eq_some_iff, matching?_eq_some_iff,
    digest?_eq_some_iff, Option.pure_def, Option.some.injEq, RecordIds.mk.injEq]
  constructor
  · rintro ⟨a, hAuth, p, hPlan, c, hCampaign, rfl, rfl, rfl⟩
    exact ⟨hAuth, hPlan, hCampaign⟩
  · rintro ⟨hAuth, hPlan, hCampaign⟩
    exact ⟨_, hAuth, _, hPlan, _, hCampaign, rfl, rfl, rfl⟩

omit [DecidableEq δ] [ContentHash δ] in
theorem recordType_eq_ok_iff {record : Json δ} {kind : RecordType} :
    recordType record = .ok kind ↔
      record.field "record_type" = text kind.name ∧ record.HasKeys kind.schema := by
  rw [recordType, refuseIf_bind_eq_ok_iff, bind_eq_ok_iff]
  constructor
  · rintro ⟨-, kind', hKind, h⟩
    rw [refuseIf_bind_eq_ok_iff, pure_eq_ok] at h
    obtain ⟨hKeys, h⟩ := h
    cases h
    exact ⟨RecordType.ofName_eq_some_iff.mp (orRefuse_eq_ok_iff.mp hKind), by simpa using hKeys⟩
  · rintro ⟨hType, hKeys⟩
    refine ⟨by rw [hType]; simp [text, Json.hashable], kind, ?_, ?_⟩
    · exact orRefuse_eq_ok_iff.mpr (RecordType.ofName_eq_some_iff.mpr hType)
    · rw [refuseIf_bind_eq_ok_iff]
      exact ⟨by simpa using hKeys, rfl⟩

/-- The part of the acceptance of a record that does not depend on its type. -/
structure WellTagged (record : Json δ) (kind : RecordType) (ids : RecordIds δ) : Prop
    extends Tagged record kind ids where
  keys : record.HasKeys kind.schema
  version : (record.field "schema_version").pyEq (.int acquisitionSchemaVersion) = true

theorem validateRecord_eq_ok_iff {scan scan' : LedgerScan δ} {record : Json δ} :
    validateRecord scan record = .ok scan' ↔
      ∃ kind ids, WellTagged record kind ids ∧
        (match kind with
          | .authorization => validateAuthorization scan record ids
          | .attempt => validateAttempt scan record ids
          | .outcome => validateOutcome scan record ids) = .ok scan' := by
  rw [validateRecord, bind_eq_ok_iff]
  constructor
  · rintro ⟨kind, hKind, h⟩
    rw [refuseIf_bind_eq_ok_iff, bind_eq_ok_iff] at h
    obtain ⟨hVersion, ids, hIds, h⟩ := h
    rw [orRefuse_eq_ok_iff, recordIds_eq_some_iff] at hIds
    obtain ⟨hType, hKeys⟩ := recordType_eq_ok_iff.mp hKind
    exact ⟨kind, ids, ⟨⟨hType, hIds.1.1, hIds.1.2, hIds.2.1, hIds.2.2⟩, hKeys,
      by simpa using hVersion⟩, h⟩
  · rintro ⟨kind, ids, tagged, h⟩
    refine ⟨kind, recordType_eq_ok_iff.mpr ⟨tagged.type, tagged.keys⟩, ?_⟩
    rw [refuseIf_bind_eq_ok_iff, bind_eq_ok_iff]
    refine ⟨by simpa using tagged.version, ids, ?_, h⟩
    rw [orRefuse_eq_ok_iff, recordIds_eq_some_iff]
    exact ⟨⟨tagged.authorization, tagged.pattern⟩, tagged.plan, tagged.campaign⟩

/-- What an authorization record says by itself. -/
structure HeaderRecord (record : Json δ) (campaignId : δ) (calls : List AcquisitionCall)
    (scope : Json δ) (c : AuthorizationCounters) : Prop where
  decoded : ∃ items, record.field "calls" = .arr items ∧ items.mapM callFromDocument = .ok calls
  ordered : validateCallOrder calls = .ok ⟨⟩
  inScope : validateCampaignScope (record.field "campaign_scope") = .ok scope
  named : campaignId = contentId scope
  counted : authorizationCounters record = some c

theorem validateAuthorization_eq_ok_iff {scan scan' : LedgerScan δ} {record : Json δ}
    {ids : RecordIds δ} :
    validateAuthorization scan record ids = .ok scan' ↔
      ∃ calls scope c, HeaderRecord record ids.campaignId calls scope c ∧
        scan.headers ids.authorizationId = none ∧
        AuthorizationHeader scan record ids.campaignId calls c ∧
        (∃ start stop, parseLedgerDate (record.field "window_start") = .ok start ∧
          parseLedgerDate (record.field "window_end") = .ok stop ∧
          WithinCampaignWindow record scope start stop calls) ∧
        (∃ t, parseLedgerTimestamp (record.field "recorded_at") = .ok t) ∧
        scan' = scan.addAuthorization record ids c := by
  rw [validateAuthorization, refuseIf_bind_eq_ok_iff, bind_eq_ok_iff]
  constructor
  · rintro ⟨hFresh, items, hItems, h⟩
    rw [orRefuse_eq_ok_iff, Json.items?_eq_some_iff] at hItems
    rw [bind_eq_ok_iff] at h
    obtain ⟨calls, hCalls, h⟩ := h
    rw [bind_eq_ok_iff] at h
    obtain ⟨_, hOrder, h⟩ := h
    rw [bind_eq_ok_iff] at h
    obtain ⟨scope, hScope, h⟩ := h
    rw [refuseIf_bind_eq_ok_iff, bind_eq_ok_iff] at h
    obtain ⟨hCampaign, c, hCounters, h⟩ := h
    rw [refuseIf_bind_eq_ok_iff, bind_eq_ok_iff] at h
    obtain ⟨hHeader, start, hStart, h⟩ := h
    rw [bind_eq_ok_iff] at h
    obtain ⟨stop, hStop, h⟩ := h
    rw [refuseIf_bind_eq_ok_iff, bind_eq_ok_iff] at h
    obtain ⟨hWindow, t, hTime, h⟩ := h
    rw [pure_eq_ok] at h
    cases h
    exact ⟨calls, scope, c,
      ⟨⟨items, hItems, hCalls⟩, hOrder, hScope, by simpa using hCampaign,
        orRefuse_eq_ok_iff.mp hCounters⟩,
      by simpa using hFresh, by simpa using hHeader,
      ⟨start, stop, hStart, hStop, by simpa using hWindow⟩, ⟨t, hTime⟩, rfl⟩
  · rintro ⟨calls, scope, c, ⟨⟨items, hItems, hCalls⟩, hOrder, hScope, hCampaign, hCounters⟩,
      hFresh, hHeader, ⟨start, stop, hStart, hStop, hWindow⟩, ⟨t, hTime⟩, rfl⟩
    refine ⟨by simpa using hFresh, items, by rw [hItems]; rfl, ?_⟩
    rw [hCalls, ok_bind, hOrder, ok_bind, hScope, ok_bind, refuseIf_of_not (by simpa using hCampaign),
      ok_bind, hCounters, orRefuse_some, ok_bind, refuseIf_of_not (by simpa using hHeader), ok_bind,
      hStart, ok_bind, hStop, ok_bind, refuseIf_of_not (by simpa using hWindow), ok_bind, hTime]
    rfl

/-- A child record read against its header. -/
structure ChildRecord (scan : LedgerScan δ) (record : Json δ) (ids : RecordIds δ) (header : Json δ)
    (calls : List AcquisitionCall) (child : ChildCall δ) : Prop where
  found : scan.headers ids.authorizationId = some header
  plan : header.field "plan_id" = hash ids.planId
  campaign : header.field "campaign_id" = hash ids.campaignId
  decoded : headerCalls header = .ok calls
  ordered : child.orderedHeaderCalls = (callMap (δ := δ) calls).map Prod.snd
  identified : record.field "call_id" = hash child.callId
  listed : (callMap calls).lookup child.callId = some child.call
  typed : record.field "call_kind" = text child.call.kind.name

theorem childCall_eq_ok_iff {scan : LedgerScan δ} {record : Json δ} {ids : RecordIds δ}
    {child : ChildCall δ} :
    childCall scan record ids = .ok child ↔
      ∃ header calls, ChildRecord scan record ids header calls child := by
  rw [childCall, bind_eq_ok_iff]
  constructor
  · rintro ⟨header, hHeader, h⟩
    rw [refuseIf_bind_eq_ok_iff, refuseIf_bind_eq_ok_iff, bind_eq_ok_iff] at h
    obtain ⟨hIds, -, calls, hCalls, h⟩ := h
    rw [bind_eq_ok_iff] at h
    obtain ⟨callId, hCallId, h⟩ := h
    rw [bind_eq_ok_iff] at h
    obtain ⟨call, hCall, h⟩ := h
    rw [refuseIf_bind_eq_ok_iff, pure_eq_ok] at h
    obtain ⟨hKind, h⟩ := h
    cases h
    rw [not_or] at hIds
    exact ⟨header, calls, orRefuse_eq_ok_iff.mp hHeader, by simpa using hIds.1,
      by simpa using hIds.2, hCalls, rfl, digest?_eq_some_iff.mp (orRefuse_eq_ok_iff.mp hCallId),
      orRefuse_eq_ok_iff.mp hCall, by simpa using hKind⟩
  · rintro ⟨header, calls, hHeader, hPlan, hCampaign, hCalls, hOrdered, hCallId, hCall, hKind⟩
    refine ⟨header, orRefuse_eq_ok_iff.mpr hHeader, ?_⟩
    have hText : ¬ ((record.field "call_id").text? = none ∨ (record.field "call_kind").text? = none) := by
      rw [hCallId, hKind]
      simp [hash, text, Json.text?]
    rw [refuseIf_of_not (by simp [hPlan, hCampaign]), ok_bind, refuseIf_of_not hText, ok_bind, hCalls,
      ok_bind, digest?_eq_some_iff.mpr hCallId, orRefuse_some, ok_bind, hCall, orRefuse_some, ok_bind,
      refuseIf_of_not (by simpa using hKind), ← hOrdered]
    rfl

theorem validateAttempt_eq_ok_iff {scan scan' : LedgerScan δ} {record : Json δ} {ids : RecordIds δ} :
    validateAttempt scan record ids = .ok scan' ↔
      ∃ header calls child, ChildRecord scan record ids header calls child ∧
        AttemptRecord scan record ids child child.position ∧
        (∃ t, parseLedgerTimestamp (record.field "reserved_at") = .ok t) ∧
        scan' = scan.addAttempt record ids child.callId child.position := by
  rw [validateAttempt, bind_eq_ok_iff]
  constructor
  · rintro ⟨child, hChild, h⟩
    rw [refuseIf_bind_eq_ok_iff, bind_eq_ok_iff] at h
    obtain ⟨hAttempt, t, hTime, h⟩ := h
    rw [pure_eq_ok] at h
    cases h
    obtain ⟨header, calls, hRecord⟩ := childCall_eq_ok_iff.mp hChild
    exact ⟨header, calls, child, hRecord, by simpa using hAttempt, ⟨t, hTime⟩, rfl⟩
  · rintro ⟨header, calls, child, hRecord, hAttempt, ⟨t, hTime⟩, rfl⟩
    refine ⟨child, childCall_eq_ok_iff.mpr ⟨header, calls, hRecord⟩, ?_⟩
    rw [refuseIf_of_not (by simpa using hAttempt), ok_bind, hTime]
    rfl

theorem validateOutcome_eq_ok_iff {scan scan' : LedgerScan δ} {record : Json δ} {ids : RecordIds δ} :
    validateOutcome scan record ids = .ok scan' ↔
      ∃ header calls child, ChildRecord scan record ids header calls child ∧
        (ids.authorizationId, child.callId) ∈ scan.attempts ∧
        (ids.authorizationId, child.callId) ∉ scan.outcomes ∧
        isOutcomeStatus (record.field "status") = true ∧ outcomeDetail record = .ok () ∧
        (∃ t, parseLedgerTimestamp (record.field "recorded_at") = .ok t) ∧
        scan' = scan.addOutcome record ids child.callId := by
  rw [validateOutcome, bind_eq_ok_iff]
  constructor
  · rintro ⟨child, hChild, h⟩
    rw [refuseIf_bind_eq_ok_iff, refuseIf_bind_eq_ok_iff, refuseIf_bind_eq_ok_iff, bind_eq_ok_iff] at h
    obtain ⟨hKey, -, hStatus, _, hDetail, h⟩ := h
    rw [bind_eq_ok_iff] at h
    obtain ⟨t, hTime, h⟩ := h
    rw [pure_eq_ok] at h
    cases h
    rw [not_or, not_not] at hKey
    obtain ⟨header, calls, hRecord⟩ := childCall_eq_ok_iff.mp hChild
    exact ⟨header, calls, child, hRecord, hKey.1, hKey.2, by simpa using hStatus, hDetail,
      ⟨t, hTime⟩, rfl⟩
  · rintro ⟨header, calls, child, hRecord, hAttempt, hOutcome, hStatus, hDetail, ⟨t, hTime⟩, rfl⟩
    refine ⟨child, childCall_eq_ok_iff.mpr ⟨header, calls, hRecord⟩, ?_⟩
    have hHashable : (record.field "status").hashable ≠ false := by
      simp only [isOutcomeStatus, decide_eq_true_eq] at hStatus
      rcases hStatus with h | h | h <;> rw [h] <;> simp [text, Json.hashable]
    rw [refuseIf_of_not (by simp [hAttempt, hOutcome]), ok_bind, refuseIf_of_not hHashable, ok_bind,
      refuseIf_of_not (by simp [hStatus]), ok_bind, hDetail, ok_bind, hTime]
    rfl

end StockApi.Acquisition

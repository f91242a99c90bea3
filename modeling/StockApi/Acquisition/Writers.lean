import StockApi.Acquisition.Describes

/-!
# What the writers append is accepted

Each writer computes its record from a ledger the validator accepts. Read against the scan of
that ledger, the record it appends passes the validator again.
-/

namespace StockApi.Acquisition

open Checked CivilTime

variable {δ : Type} [DecidableEq δ] [ContentHash δ]
  {records : List (Json δ)} {scan : LedgerScan δ}

/-! ## Reading the file -/

theorem readRecords_eq_ok {file : LedgerFile δ} (h : readRecords file = .ok records) :
    records = file.lines ∧ ∃ scan, validateRecords records = .ok scan := by
  unfold readRecords at h
  simp only at h
  split at h
  · rename_i scan hChecked
    cases h
    rw [refuseIf_bind_eq_ok_iff] at hChecked
    exact ⟨rfl, scan, hChecked.2⟩
  · cases h
  · cases h

theorem readRecords_of_validate {file : LedgerFile δ} (h : validateRecords file.lines = .ok scan) :
    readRecords file = .ok file.lines := by
  have hObjects : ¬ file.lines.any (fun line => !line.isObject) = true := by
    rw [List.any_eq_true]
    rintro ⟨r, hMem, hNot⟩
    rw [((describes_of_validateRecords h).tagged r hMem).1] at hNot
    cases hNot
  have hChecked : (do
      refuseIf (file.lines.any (fun line => !line.isObject) = true)
        (Raised.valueError "non-object line")
      validateRecords file.lines) = .ok scan := by
    rw [refuseIf_of_not hObjects, ok_bind, h]
  simp only [readRecords]
  rw [hChecked]

omit [DecidableEq δ] [ContentHash δ] in
theorem appending_eq_ok {α : Type} {file file' : LedgerFile δ} {built : Except Raised (Json δ × α)}
    {result : α} (h : appending file built = (.ok result, file')) :
    ∃ record, built = .ok (record, result) ∧ file'.lines = file.lines ++ [record] := by
  cases built with
  | error e => cases h
  | ok done =>
    cases h
    exact ⟨done.1, rfl, rfl⟩

/-! ## The campaign state of a described ledger -/

theorem Describes.knownHeader (d : Describes records scan) {h : Json δ} (hMem : h ∈ records)
    (hKind : isRecord .authorization h = true) :
    ∃ a, scan.headers a = some h ∧ KnownHeader h a := by
  obtain ⟨-, kind, ids, tagged⟩ := d.tagged h hMem
  have hIn : h ∈ ofAuthorization .authorization records ids.authorizationId :=
    mem_ofAuthorization.mpr ⟨hMem, hKind, tagged.authorization⟩
  rw [d.headers, Option.mem_toList] at hIn
  exact ⟨_, hIn, d.known _ _ hIn⟩

/-- Every record names a campaign by the digest of its scope. -/
theorem Describes.campaign_named (d : Describes records scan) {r : Json δ} (hMem : r ∈ records) :
    ∃ scope : Json δ, r.field "campaign_id" = hash (contentId scope) := by
  obtain ⟨-, kind, ids, tagged⟩ := d.tagged r hMem
  have hHeader : ∃ a header, KnownHeader header a ∧
      header.field "campaign_id" = r.field "campaign_id" := by
    by_cases hKind : isRecord .authorization r = true
    · obtain ⟨a, -, known⟩ := d.knownHeader hMem hKind
      exact ⟨a, r, known, rfl⟩
    · obtain ⟨cids, header, _, _, -, -, hCampaign, hFound, -, hSame, -⟩ :=
        d.child r hMem (by simpa using hKind)
      exact ⟨_, header, d.known _ _ hFound, hSame.trans hCampaign.symm⟩
  obtain ⟨a, header, ⟨hids, _, scope, _, htagged, -, hRecord, -⟩, hSame⟩ := hHeader
  exact ⟨scope, by rw [← hSame, htagged.campaign, hRecord.named]⟩

omit [DecidableEq δ] [ContentHash δ] in
theorem mapM_digest? {α : Type} {f : α → Json δ} {xs : List α} (h : ∀ x ∈ xs, ∃ i, f x = hash i) :
    ∃ ids, (xs.map f).mapM digest? = some ids := by
  induction xs with
  | nil => exact ⟨[], rfl⟩
  | cons x xs ih =>
    obtain ⟨i, hi⟩ := h x (by simp)
    obtain ⟨ids, hIds⟩ := ih fun y hy => h y (by simp [hy])
    exact ⟨i :: ids, by simp [hi, hIds, digest?, hash]⟩

/-- The campaign state read off the file is the one the scan has kept. -/
structure StateOf (records : List (Json δ)) (scan : LedgerScan δ) (scope : Json δ)
    (state : CampaignLedgerState δ) : Prop where
  campaignId : state.campaignId = contentId scope
  campaignScope : state.campaignScope = scope
  ledgerSha256 : state.ledgerSha256 = contentId (.arr (campaignRecordsOf records (contentId scope)))
  recordCount : state.recordCount = (campaignRecordsOf records (contentId scope)).length
  globalLedgerSha256 : state.globalLedgerSha256 = contentId (.arr records)
  globalRecordCount : state.globalRecordCount = records.length
  baseCalls : state.baseCalls = scan.campaignBaseCalls (contentId scope)
  authorizedCalls : state.authorizedCalls = scan.campaignAuthorizedCalls (contentId scope)
  reservedCalls : state.reservedCalls = scan.campaignReservedCalls (contentId scope)

theorem Describes.scopes_agree (free : CollisionFree δ) (d : Describes records scan) (scope : Json δ) :
    ¬ (campaignHeaders records (contentId scope)).any
      (fun h => !(h.field "campaign_scope").pyEq scope) = true := by
  rw [List.any_eq_true]
  rintro ⟨h, hMem, hNot⟩
  obtain ⟨hIn, hKind⟩ := List.mem_filter.mp hMem
  obtain ⟨hRecord, hCampaign⟩ := List.mem_filter.mp hIn
  obtain ⟨a, -, ids, calls, scope', c, tagged, -, header, -⟩ := d.knownHeader hRecord hKind
  obtain ⟨hEq, -⟩ := validateCampaignScope_eq_ok header.inScope
  have hSame : scope' = scope := by
    apply free
    rw [← header.named, ← hash_inj, ← tagged.campaign]
    exact of_decide_eq_true hCampaign
  rw [hSame] at hEq
  simp [hEq] at hNot

theorem Describes.admittedFailures (d : Describes records scan) (c : δ) :
    ∃ ids, (((campaignRecordsOf records c).filter fun r => isRecord .outcome r &&
      decide (r.field "status" = text failedAfterAdmission)).map
        (·.field "call_id")).mapM digest? = some ids := by
  apply mapM_digest?
  intro r hMem
  obtain ⟨hIn, hTest⟩ := List.mem_filter.mp hMem
  obtain ⟨hRecord, -⟩ := List.mem_filter.mp hIn
  obtain ⟨-, kind, ids, tagged⟩ := d.tagged r hRecord
  rw [Bool.and_eq_true, isRecord_of_type tagged.type, decide_eq_true_eq] at hTest
  have hChild := d.child r hRecord (by rw [isRecord_of_type tagged.type, hTest.1]; rfl)
  obtain ⟨_, _, _, i, -, -, -, -, -, -, -, -, hCall⟩ := hChild
  exact ⟨i, hCall⟩

theorem Describes.campaignState (free : CollisionFree δ) (d : Describes records scan)
    (scope : Json δ) :
    ∃ state, campaignStateFromRecords records (contentId scope) scope = .ok state ∧
      StateOf records scan scope state := by
  have hCounted : (campaignRecordsOf records (contentId scope)).length ≤ records.length :=
    List.length_filter_le _ _
  have hBudget := d.budget (contentId scope)
  have hBase := d.base (contentId scope)
  have hAuthorized := d.authorized (contentId scope)
  cases hHeaders : campaignHeaders records (contentId scope) with
  | nil =>
    rw [hHeaders] at hBase hAuthorized
    simp only [List.head?_nil, Option.bind_none] at hBase
    rw [hBase] at hBudget
    obtain ⟨hEmpty, hZero, hReserved⟩ := hBudget
    have hRecords : campaignRecordsOf records (contentId scope) = [] :=
      List.length_eq_zero_iff.mp hEmpty
    have hNoFailures : ([] : List (Json δ)).mapM digest? = some [] := rfl
    have hState := CampaignLedgerState.construct_eq_ok (contentId (.arr []))
      (contentId (.arr records)) (rfl : contentId scope = contentId scope)
      (Nat.zero_le records.length) hNoFailures (show BudgetState 0 none 0 0 from ⟨rfl, rfl, rfl⟩)
    refine ⟨_, Eq.trans ?_ hState, ?_⟩
    · rw [campaignStateFromRecords, if_neg (by simp), hHeaders]
      rfl
    · constructor <;> simp [hRecords, hBase, hZero, hReserved]
  | cons first rest =>
    have hLast : (first :: rest).getLast? = some ((first :: rest).getLast (by simp)) :=
      List.getLast?_eq_some_getLast _
    rw [hHeaders] at hBase hAuthorized
    rw [hLast] at hAuthorized
    simp only [List.head?_cons, Option.bind_some] at hBase hAuthorized
    obtain ⟨failedIds, hFailed⟩ := d.admittedFailures (contentId scope)
    have hReserved := d.reserved (contentId scope)
    rw [hBase, hAuthorized, hReserved] at hBudget
    have hState := CampaignLedgerState.construct_eq_ok
      (contentId (.arr (campaignRecordsOf records (contentId scope)))) (contentId (.arr records))
      (rfl : contentId scope = contentId scope) hCounted hFailed hBudget
    have hScopes := d.scopes_agree free scope
    rw [hHeaders] at hScopes
    refine ⟨_, Eq.trans ?_ hState, ?_⟩
    · rw [campaignStateFromRecords, if_neg (by simp), hHeaders]
      simp only [List.head?_cons, hLast]
      rw [if_neg hScopes]
      rfl
    · constructor <;> simp [hBase, hAuthorized, hReserved]

/-! ## A reviewed plan -/

/-- What a plan built from the current database and calendar promises to the ledger. -/
structure ReviewedPlan (plan : AcquisitionPlan δ) : Prop where
  revision : matchesGitRevision plan.toolRevision = true
  digest : plan.callsSha256 = contentId (callsDocument plan.calls)
  order : validateCallOrder plan.calls = .ok ⟨⟩
  scope : campaignScope plan.pricePlan.expectedDates = .ok plan.campaign.campaignScope
  last : plan.pricePlan.expectedDates.getLast? = some plan.endSession
  window : ∀ call ∈ plan.calls,
    (call.kind = .openClose ∧ call.start ∈ plan.pricePlan.expectedDates) ∨
    (call.kind ≠ .openClose ∧ plan.pricePlan.expectedDates.head? = some call.start ∧
      call.stop = plan.endSession)

omit [DecidableEq δ] in
theorem reviewedPlan_of_built (free : CollisionFree δ) {endSession : Date} {expectedDates : List Date}
    {coverage : ExistingCoverage δ} {toolRevision : String} {ambiguousDates : List Date}
    {pricePlan : BackfillPlan δ} {unresolvedCallIds : List δ} {campaign : CampaignLedgerState δ}
    {plan : AcquisitionPlan δ}
    (hLast : expectedDates.getLast? = some endSession)
    (hPrice : buildPlan endSession expectedDates coverage toolRevision ambiguousDates = .ok pricePlan)
    (built : PlanBuilt pricePlan unresolvedCallIds campaign plan) : ReviewedPlan plan := by
  obtain ⟨hRevision, hEnd, hTool, hExpected, hMissing⟩ := buildPlan_eq_ok hPrice
  obtain ⟨scope, hScope, hCampaign⟩ := built.scope
  have hSame : plan.campaign.campaignScope = scope := by
    apply free
    rw [← plan.campaign.identity, built.state, hCampaign]
  constructor
  case revision => rwa [AcquisitionPlan.toolRevision, built.price, hTool]
  case digest => exact built.digest
  case order => exact built.order
  case scope => rw [built.price, hScope, hSame]
  case last => rw [AcquisitionPlan.endSession, built.price, hExpected, hEnd, hLast]
  case window =>
    intro call hCall
    rw [AcquisitionPlan.endSession, built.price]
    rcases built.window call hCall with ⟨hKind, hStart⟩ | hAction
    · exact Or.inl ⟨hKind, by rw [hExpected]; exact hMissing _ hStart⟩
    · exact Or.inr hAction

/-! ## Authorizations -/

omit [DecidableEq δ] [ContentHash δ] in
theorem parseLedgerTimestamp_awareIso {now : Option Instant} {stamp : Json δ}
    (h : awareIso now = .ok stamp) : ∃ t, parseLedgerTimestamp stamp = .ok t := by
  cases now with
  | none => cases h
  | some t =>
    cases h
    exact ⟨_, by simp [parseLedgerTimestamp, text]; rfl⟩

omit [DecidableEq δ] [ContentHash δ] in
theorem parseLedgerDate_isoDate (d : Date) : parseLedgerDate (isoDate d : Json δ) = .ok d := by
  have hRead : isoDate? (isoDate d : Json δ) = some d := isoDate?_isoDate d
  rw [parseLedgerDate, hRead]
  rfl

theorem mapM_callFromDocument (calls : List AcquisitionCall) :
    (calls.map fun c => (c.ledgerDocument : Json δ)).mapM callFromDocument = .ok calls := by
  induction calls with
  | nil => rfl
  | cons c rest ih =>
    rw [List.map_cons, List.mapM_cons, callFromDocument_ledgerDocument, ih]
    rfl

theorem pairwise_bounds {first d : Date} {rest : List Date} (h : (first :: rest).Pairwise (· < ·))
    (hMem : d ∈ first :: rest) : first ≤ d ∧ d ≤ rest.getLastD first := by
  have hSorted : (first :: rest).Pairwise (· ≤ ·) := h.imp le_of_lt
  constructor
  · rcases List.mem_cons.mp hMem with rfl | hMem
    · exact le_rfl
    · exact (List.pairwise_cons.mp hSorted).1 d hMem
  · have hLast : rest.getLastD first = (first :: rest).getLast (by simp) := by
      cases rest <;> simp [List.getLastD]
    rw [hLast]
    exact List.Pairwise.rel_getLast hSorted hMem

omit [DecidableEq δ] in
theorem within_of_reviewed {plan : AcquisitionPlan δ} (reviewed : ReviewedPlan plan) {start : Date}
    (hStart : plan.pricePlan.expectedDates.head? = some start) {record : Json δ}
    (hWindowStart : record.field "window_start" = isoDate start)
    (hWindowEnd : record.field "window_end" = isoDate plan.endSession) :
    WithinCampaignWindow record plan.campaign.campaignScope start plan.endSession plan.calls := by
  obtain ⟨hSorted, first, rest, hDates, hScope⟩ := campaignScope_eq_ok_iff.mp reviewed.scope
  rw [hDates] at hSorted hStart
  have hLast := reviewed.last
  rw [hDates] at hLast
  have hFirst : first = start := by simpa using hStart
  subst hFirst
  have hEnd : rest.getLastD first = plan.endSession := by
    rw [List.getLast?_cons, Option.some.injEq] at hLast
    rw [List.getLastD_eq_getLast?, hLast]
  have hBounds : first ≤ plan.endSession := by
    rw [← hEnd]
    exact (pairwise_bounds hSorted (by simp)).2
  refine ⟨hBounds, ?_, ?_, ?_⟩
  · rw [hWindowStart, hScope]
    rfl
  · rw [hWindowEnd, hScope, ← hEnd]
    rfl
  · intro call hCall
    rcases reviewed.window call hCall with ⟨hKind, hMem⟩ | ⟨hKind, hHead, hStop⟩
    · rw [hDates] at hMem
      have hSingle := call.single hKind
      obtain ⟨hLow, hHigh⟩ := pairwise_bounds hSorted hMem
      refine ⟨hLow, by rw [← hSingle, ← hEnd]; exact hHigh, fun _ => ?_⟩
      rw [hScope, hDates]
      exact List.mem_map.mpr ⟨call.start, hMem, rfl⟩
    · rw [hDates] at hHead
      have hFirst : first = call.start := by simpa using hHead
      exact ⟨hFirst.le, hStop.le, fun h => absurd h hKind⟩

/-- What a successful `begin_authorization` has checked. -/
structure AuthorizationGranted (records : List (Json δ)) (authorizationId : Text δ)
    (plan : AcquisitionPlan δ) (maxCalls delta : Int) (record : Json δ) : Prop where
  matched : ∃ a, (.str authorizationId : Json δ) = text a ∧ matchesAuthorizationId a = true
  exact : maxCalls = plan.calls.length
  range : 1 ≤ maxCalls ∧ maxCalls ≤ maxAuthorizedCalls
  fresh : ∀ r ∈ records, r.field "authorization_id" ≠ .str authorizationId
  current : campaignStateFromRecords records plan.campaign.campaignId plan.campaign.campaignScope =
    .ok plan.campaign
  required : delta = max 0 (plan.campaign.reservedCalls + maxCalls - plan.campaign.authorizedCalls)
  room : plan.campaign.reservedCalls + maxCalls ≤ plan.campaign.authorizedCalls + delta
  top : plan.campaign.authorizedCalls + delta ≤
    min (plan.campaign.baseCalls.getD maxCalls + maxRecoveryCalls) absoluteMaxCampaignCalls
  document : ∃ start stamp, plan.pricePlan.expectedDates.head? = some start ∧
    (∃ t, parseLedgerTimestamp stamp = .ok t) ∧
    record = authorizationDocument authorizationId plan start plan.campaign.ledgerSha256
      (plan.campaign.baseCalls.getD maxCalls) delta (plan.campaign.authorizedCalls + delta)
      plan.campaign.reservedCalls maxCalls stamp

theorem authorizationRecord_eq_ok {now : Option Instant} {authorizationId : Text δ}
    {plan : AcquisitionPlan δ} {maxCalls : Int} {campaignBudgetDelta : Json δ} {file : LedgerFile δ}
    {record : Json δ} {result : Unit}
    (h : authorizationRecord now authorizationId plan maxCalls campaignBudgetDelta file =
      .ok (record, result)) :
    ∃ delta scan, validateRecords file.lines = .ok scan ∧
      AuthorizationGranted file.lines authorizationId plan maxCalls delta record := by
  rw [authorizationRecord, bind_eq_ok_iff] at h
  obtain ⟨_, hId, h⟩ := h
  rw [refuseIf_bind_eq_ok_iff, bind_eq_ok_iff] at h
  obtain ⟨hCalls, records, hRead, h⟩ := h
  obtain ⟨rfl, scan, hScan⟩ := readRecords_eq_ok hRead
  rw [refuseIf_bind_eq_ok_iff, bind_eq_ok_iff] at h
  obtain ⟨hFresh, current, hCurrent, h⟩ := h
  rw [refuseIf_bind_eq_ok_iff, bind_eq_ok_iff] at h
  obtain ⟨hSame, delta, hDelta, h⟩ := h
  rw [refuseIf_bind_eq_ok_iff, bind_eq_ok_iff] at h
  obtain ⟨-, blocked, -, h⟩ := h
  rw [refuseIf_bind_eq_ok_iff, refuseIf_bind_eq_ok_iff, bind_eq_ok_iff] at h
  obtain ⟨-, hBudget, start, hStart, h⟩ := h
  rw [bind_eq_ok_iff] at h
  obtain ⟨stamp, hStamp, h⟩ := h
  rw [pure_eq_ok] at h
  cases h
  rw [ne_eq, not_not] at hSame
  subst hSame
  refine ⟨delta, scan, hScan, ?_⟩
  rw [not_or, not_not, not_not] at hCalls
  rw [not_or, not_lt, not_lt] at hBudget
  have hMatch : matching? matchesAuthorizationId (.str authorizationId) ≠ none := by
    rwa [validateAuthorizationId, refuseIf_eq_ok_iff] at hId
  obtain ⟨a, ha⟩ := Option.ne_none_iff_exists'.mp hMatch
  have hDeltaEq : delta =
      max 0 (plan.campaign.reservedCalls + maxCalls - plan.campaign.authorizedCalls) := by
    rw [CampaignLedgerState.requiredBudgetDelta, if_neg (by omega)] at hDelta
    cases hDelta
    rfl
  exact {
    matched := ⟨a, matching?_eq_some_iff.mp ha⟩
    exact := hCalls.1
    range := hCalls.2
    fresh := by
      intro r hr hEq
      exact hFresh (List.any_eq_true.mpr ⟨r, hr, by simpa using hEq⟩)
    current := hCurrent
    required := hDeltaEq
    room := hBudget.1
    top := hBudget.2
    document := ⟨start, stamp, orRefuse_eq_ok_iff.mp hStart, parseLedgerTimestamp_awareIso hStamp,
      rfl⟩ }

/-- A granted authorization is accepted on top of the ledger it was granted on. -/
theorem AuthorizationGranted.accepted (free : CollisionFree δ) {authorizationId : Text δ}
    {plan : AcquisitionPlan δ} {maxCalls delta : Int} {record : Json δ}
    (d : Describes records scan)
    (granted : AuthorizationGranted records authorizationId plan maxCalls delta record)
    (reviewed : ReviewedPlan plan) : ∃ scan', validateRecord scan record = .ok scan' := by
  obtain ⟨a, hAuth, hPattern⟩ := granted.matched
  obtain ⟨start, stamp, hStart, hStamp, rfl⟩ := granted.document
  obtain ⟨state, hState, view⟩ := d.campaignState free plan.campaign.campaignScope
  have hSame : state = plan.campaign := by
    have hCurrent := granted.current
    rw [plan.campaign.identity, hState] at hCurrent
    exact Except.ok.inj hCurrent
  subst hSame
  have hId : plan.campaign.campaignId = contentId plan.campaign.campaignScope := plan.campaign.identity
  set c : AuthorizationCounters := {
    maxCalls := maxCalls
    baseCalls := plan.campaign.baseCalls.getD maxCalls
    budgetDelta := delta
    authorizedCalls := plan.campaign.authorizedCalls + delta
    reservedBefore := plan.campaign.reservedCalls } with hc
  set record := authorizationDocument authorizationId plan start plan.campaign.ledgerSha256
    (plan.campaign.baseCalls.getD maxCalls) delta (plan.campaign.authorizedCalls + delta)
    plan.campaign.reservedCalls maxCalls stamp with hRecord
  set ids : RecordIds δ := ⟨a, plan.planId, plan.campaign.campaignId⟩ with hIds
  have hTagged : WellTagged record .authorization ids := {
    type := rfl
    authorization := hAuth
    pattern := hPattern
    plan := rfl
    campaign := rfl
    keys := by
      simp [hRecord, authorizationDocument, Json.HasKeys, Json.isObject, Json.keys, RecordType.schema]
    version := Json.pyEq_refl _ }
  have hHeader : HeaderRecord record ids.campaignId plan.calls plan.campaign.campaignScope c := {
    decoded := ⟨_, rfl, mapM_callFromDocument plan.calls⟩
    ordered := reviewed.order
    inScope := validateCampaignScope_of_built reviewed.scope
    named := hId
    counted := rfl }
  have hFresh : scan.headers a = none := by
    cases hFound : scan.headers a with
    | none => rfl
    | some h =>
      obtain ⟨hMem, -, hSameId⟩ := d.header_mem hFound
      exact absurd (hSameId.trans hAuth.symm) (granted.fresh h hMem)
  have hBaseRange : 1 ≤ plan.campaign.baseCalls.getD maxCalls ∧
      plan.campaign.baseCalls.getD maxCalls ≤ maxAuthorizedCalls := by
    have hBudget := plan.campaign.budget
    cases hBase : plan.campaign.baseCalls with
    | none => exact granted.range
    | some b =>
      rw [hBase] at hBudget
      exact hBudget.1
  have hConditions : AuthorizationHeader scan record ids.campaignId plan.calls c := by
    have hDigest : plan.campaign.ledgerSha256 =
        contentId (.arr (scan.campaignRecords plan.campaign.campaignId)) := by
      rw [view.ledgerSha256, d.campaign, hId]
    refine ⟨rfl, rfl, ?_, Json.pyEq_refl _, granted.exact, granted.range, ?_, hBaseRange, ?_, ?_, ?_,
      ?_, ?_, ?_, ?_⟩
    · exact Option.isSome_iff_exists.mpr ⟨_, matching?_eq_some_iff.mpr ⟨rfl, reviewed.revision⟩⟩
    · simp only [hc, hIds, hId, ← view.baseCalls]
    · simp only [hc, hIds, hId, ← view.reservedCalls, ← view.authorizedCalls]
      rw [granted.required, granted.exact]
    · simp only [hc, hIds, hId, ← view.authorizedCalls]
    · simp only [hc, hIds, hId, ← view.baseCalls]
      exact granted.top
    · simp only [hc, hIds, hId, ← view.reservedCalls]
      rw [← granted.exact]
      exact granted.room
    · simp only [hc, hIds, hId, ← view.reservedCalls]
    · exact congrArg hash hDigest
    · exact congrArg hash reviewed.digest
  refine ⟨scan.addAuthorization record ids c, validateRecord_eq_ok_iff.mpr ⟨.authorization, ids,
    hTagged, validateAuthorization_eq_ok_iff.mpr ⟨plan.calls, _, c, hHeader, hFresh, hConditions,
      ⟨start, plan.endSession, parseLedgerDate_isoDate start, parseLedgerDate_isoDate _, ?_⟩,
      hStamp, rfl⟩⟩⟩
  exact within_of_reviewed reviewed hStart rfl rfl

end StockApi.Acquisition

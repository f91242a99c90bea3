import StockApi.Acquisition.Scan

/-!
# The scan describes the records

Every component of the scan is a view of the records it was folded over, and every campaign in
it respects its cumulative budget. One accepted record preserves the description.
-/

namespace StockApi.Acquisition

open Checked CivilTime

variable {δ : Type} [DecidableEq δ]

/-! ## Views of a record list -/

/-- The records of one kind under one authorization id. -/
def ofAuthorization (kind : RecordType) (records : List (Json δ)) (authorizationId : String) :
    List (Json δ) :=
  records.filter fun r =>
    isRecord kind r && decide (r.field "authorization_id" = text authorizationId)

omit [DecidableEq δ] in
theorem RecordType.name_injective : Function.Injective RecordType.name := by
  intro a b h
  cases a <;> cases b <;> simp_all [name]

theorem isRecord_of_type {record : Json δ} {kind : RecordType}
    (h : record.field "record_type" = text kind.name) (other : RecordType) :
    isRecord other record = decide (kind = other) := by
  simp [isRecord, h, text_inj, RecordType.name_injective.eq_iff]

theorem mem_ofAuthorization {kind : RecordType} {records : List (Json δ)} {a : String} {r : Json δ} :
    r ∈ ofAuthorization kind records a ↔
      r ∈ records ∧ isRecord kind r = true ∧ r.field "authorization_id" = text a := by
  simp [ofAuthorization]

variable {records : List (Json δ)} {record : Json δ} {kind : RecordType} {ids : RecordIds δ}

theorem ofAuthorization_append (tagged : Tagged record kind ids) (other : RecordType) (a : String) :
    ofAuthorization other (records ++ [record]) a =
      if kind = other ∧ ids.authorizationId = a then ofAuthorization other records a ++ [record]
      else ofAuthorization other records a := by
  unfold ofAuthorization
  rw [List.filter_append]
  by_cases h : kind = other ∧ ids.authorizationId = a
  · simp [h, isRecord_of_type tagged.type, tagged.authorization]
  · have hNot : ¬ (kind = other ∧ (text ids.authorizationId : Json δ) = text a) := by
      rwa [text_inj]
    simp [h, isRecord_of_type tagged.type, tagged.authorization, hNot]

theorem campaignRecordsOf_append (tagged : Tagged record kind ids) (c : δ) :
    campaignRecordsOf (records ++ [record]) c =
      if ids.campaignId = c then campaignRecordsOf records c ++ [record]
      else campaignRecordsOf records c := by
  unfold campaignRecordsOf
  rw [List.filter_append]
  by_cases h : ids.campaignId = c
  · simp [h, tagged.campaign]
  · simp [h, tagged.campaign, hash_inj]

theorem campaignHeaders_append (tagged : Tagged record kind ids) (c : δ) :
    campaignHeaders (records ++ [record]) c =
      if kind = .authorization ∧ ids.campaignId = c then campaignHeaders records c ++ [record]
      else campaignHeaders records c := by
  unfold campaignHeaders
  rw [campaignRecordsOf_append tagged]
  by_cases hCampaign : ids.campaignId = c
  · by_cases hKind : kind = .authorization <;>
      simp [hCampaign, hKind, isRecord_of_type tagged.type]
  · simp [hCampaign]

/-- The attempts of a campaign. -/
def campaignAttempts (records : List (Json δ)) (c : δ) : List (Json δ) :=
  (campaignRecordsOf records c).filter (isRecord .attempt)

theorem campaignAttempts_append (tagged : Tagged record kind ids) (c : δ) :
    campaignAttempts (records ++ [record]) c =
      if kind = .attempt ∧ ids.campaignId = c then campaignAttempts records c ++ [record]
      else campaignAttempts records c := by
  unfold campaignAttempts
  rw [campaignRecordsOf_append tagged]
  by_cases hCampaign : ids.campaignId = c
  · by_cases hKind : kind = .attempt <;> simp [hCampaign, hKind, isRecord_of_type tagged.type]
  · simp [hCampaign]

variable [ContentHash δ]

/-! ## The description -/

/-- An authorization record the validator has accepted under an id. -/
def KnownHeader (header : Json δ) (authorizationId : String) : Prop :=
  ∃ (ids : RecordIds δ) (calls : List AcquisitionCall) (scope : Json δ) (c : AuthorizationCounters),
    Tagged header .authorization ids ∧ ids.authorizationId = authorizationId ∧
    HeaderRecord header ids.campaignId calls scope c ∧ c.maxCalls = calls.length

/-- A child record the validator has accepted, under a header of the same plan and campaign. -/
def KnownChild (scan : LedgerScan δ) (record : Json δ) : Prop :=
  ∃ (ids : RecordIds δ) (header : Json δ) (calls : List AcquisitionCall) (callId : δ),
    record.field "authorization_id" = text ids.authorizationId ∧
    record.field "plan_id" = hash ids.planId ∧ record.field "campaign_id" = hash ids.campaignId ∧
    scan.headers ids.authorizationId = some header ∧
    header.field "plan_id" = hash ids.planId ∧ header.field "campaign_id" = hash ids.campaignId ∧
    headerCalls header = .ok calls ∧ ((callMap calls).lookup callId).isSome = true ∧
    record.field "call_id" = hash callId

/-- The position last attempted is that of some attempt of the authorization. -/
def LastPosition (records : List (Json δ)) (scan : LedgerScan δ) (a : String) : Prop :=
  scan.lastCallPositions a = -1 ∨
    ∃ header calls r, scan.headers a = some header ∧ headerCalls header = .ok calls ∧
      r ∈ ofAuthorization .attempt records a ∧
      scan.lastCallPositions a =
        recordPosition (callPositions ((callMap (δ := δ) calls).map Prod.snd)) r

structure Describes (records : List (Json δ)) (scan : LedgerScan δ) : Prop where
  tagged : ∀ r ∈ records, r.isObject = true ∧ ∃ kind ids, Tagged r kind ids
  headers : ∀ a, ofAuthorization .authorization records a = (scan.headers a).toList
  known : ∀ a header, scan.headers a = some header → KnownHeader header a
  child : ∀ r ∈ records, isRecord .authorization r = false → KnownChild scan r
  attempts : ∀ a i, (a, i) ∈ scan.attempts ↔
    ∃ r ∈ ofAuthorization .attempt records a, r.field "call_id" = hash i
  outcomes : ∀ a i, (a, i) ∈ scan.outcomes ↔
    ∃ r ∈ ofAuthorization .outcome records a, r.field "call_id" = hash i
  counts : ∀ a, scan.attemptCounts a = (ofAuthorization .attempt records a).length
  lastPosition : ∀ a, LastPosition records scan a
  campaign : ∀ c, scan.campaignRecords c = campaignRecordsOf records c
  base : ∀ c, scan.campaignBaseCalls c =
    (campaignHeaders records c).head?.bind fun h => (h.field "campaign_base_calls").int?
  first : ∀ c, scan.campaignBaseCalls c =
    (campaignHeaders records c).head?.bind fun h => (h.field "max_calls").int?
  authorized : ∀ c, scan.campaignAuthorizedCalls c =
    ((campaignHeaders records c).getLast?.bind fun h =>
      (h.field "campaign_authorized_calls").int?).getD 0
  reserved : ∀ c, scan.campaignReservedCalls c = (campaignAttempts records c).length
  budget : ∀ c, BudgetState (campaignRecordsOf records c).length (scan.campaignBaseCalls c)
    (scan.campaignAuthorizedCalls c) (scan.campaignReservedCalls c)

theorem describes_empty : Describes ([] : List (Json δ)) LedgerScan.empty where
  tagged := by simp
  headers := by simp [ofAuthorization, LedgerScan.empty]
  known := by simp [LedgerScan.empty]
  child := by simp
  attempts := by simp [ofAuthorization, LedgerScan.empty]
  outcomes := by simp [ofAuthorization, LedgerScan.empty]
  counts := by simp [ofAuthorization, LedgerScan.empty]
  lastPosition := fun _ => Or.inl rfl
  campaign := by simp [campaignRecordsOf, LedgerScan.empty]
  base := by simp [campaignHeaders, campaignRecordsOf, LedgerScan.empty]
  first := by simp [campaignHeaders, campaignRecordsOf, LedgerScan.empty]
  authorized := by simp [campaignHeaders, campaignRecordsOf, LedgerScan.empty]
  reserved := by simp [campaignAttempts, campaignRecordsOf, LedgerScan.empty]
  budget := fun _ => ⟨rfl, rfl, rfl⟩

variable {scan : LedgerScan δ}

theorem Describes.header_mem (d : Describes records scan) {a : String} {header : Json δ}
    (h : scan.headers a = some header) :
    header ∈ records ∧ isRecord .authorization header = true ∧
      header.field "authorization_id" = text a := by
  have hMem : header ∈ ofAuthorization .authorization records a := by
    rw [d.headers, h]
    simp
  exact mem_ofAuthorization.mp hMem

/-- A campaign with a record has been initialized. -/
theorem Describes.base_isSome (d : Describes records scan) {r : Json δ} {c : δ} (hMem : r ∈ records)
    (hCampaign : r.field "campaign_id" = hash c) : ∃ b, scan.campaignBaseCalls c = some b := by
  cases hBase : scan.campaignBaseCalls c with
  | some b => exact ⟨b, rfl⟩
  | none =>
    have hBudget := d.budget c
    rw [hBase] at hBudget
    have hEmpty : campaignRecordsOf records c = [] := List.length_eq_zero_iff.mp hBudget.1
    have hIn : r ∈ campaignRecordsOf records c := by simp [campaignRecordsOf, hMem, hCampaign]
    rw [hEmpty] at hIn
    cases hIn

theorem KnownChild.mono {scan' : LedgerScan δ} {r : Json δ} (h : KnownChild scan r)
    (hHeaders : ∀ a header, scan.headers a = some header → scan'.headers a = some header) :
    KnownChild scan' r := by
  obtain ⟨ids, header, calls, callId, hAuth, hPlan, hCampaign, hFound, hRest⟩ := h
  exact ⟨ids, header, calls, callId, hAuth, hPlan, hCampaign, hHeaders _ _ hFound, hRest⟩

theorem LastPosition.mono {records' : List (Json δ)} {scan' : LedgerScan δ} {a : String}
    (h : LastPosition records scan a) (hLast : scan'.lastCallPositions a = scan.lastCallPositions a)
    (hHeaders : ∀ header, scan.headers a = some header → scan'.headers a = some header)
    (hAttempts : ∀ r ∈ ofAuthorization .attempt records a, r ∈ ofAuthorization .attempt records' a) :
    LastPosition records' scan' a := by
  rcases h with h | ⟨header, calls, r, hHeader, hCalls, hMem, hPosition⟩
  · exact Or.inl (by rw [hLast, h])
  · exact Or.inr ⟨header, calls, r, hHeaders _ hHeader, hCalls, hAttempts r hMem,
      by rw [hLast, hPosition]⟩

omit [DecidableEq δ] [ContentHash δ] in
theorem authorizationCounters_eq_some_iff {c : AuthorizationCounters} :
    authorizationCounters record = some c ↔
      record.field "max_calls" = .int c.maxCalls ∧
      record.field "campaign_base_calls" = .int c.baseCalls ∧
      record.field "campaign_budget_delta" = .int c.budgetDelta ∧
      record.field "campaign_authorized_calls" = .int c.authorizedCalls ∧
      record.field "campaign_reserved_before" = .int c.reservedBefore := by
  obtain ⟨maxCalls, baseCalls, budgetDelta, authorizedCalls, reservedBefore⟩ := c
  simp only [authorizationCounters, Option.bind_eq_bind, Option.bind_eq_some_iff,
    Json.int?_eq_some_iff, Option.pure_def, Option.some.injEq, AuthorizationCounters.mk.injEq]
  constructor
  · rintro ⟨_, h1, _, h2, _, h3, _, h4, _, h5, rfl, rfl, rfl, rfl, rfl⟩
    exact ⟨h1, h2, h3, h4, h5⟩
  · rintro ⟨h1, h2, h3, h4, h5⟩
    exact ⟨_, h1, _, h2, _, h3, _, h4, _, h5, rfl, rfl, rfl, rfl, rfl⟩

/-- A new authorization keeps the campaign within its bounds. -/
theorem budgetState_authorization {campaignId : δ} {calls : List AcquisitionCall}
    {c : AuthorizationCounters} {n : Nat} (header : AuthorizationHeader scan record campaignId calls c)
    (budget : BudgetState n (scan.campaignBaseCalls campaignId)
      (scan.campaignAuthorizedCalls campaignId) (scan.campaignReservedCalls campaignId)) :
    BudgetState (n + 1) (some c.baseCalls) c.authorizedCalls
      (scan.campaignReservedCalls campaignId) := by
  obtain ⟨-, -, -, -, hMax, hMaxRange, hBase, hBaseRange, hDelta, hAuthorized, hTop, hRoom, -⟩ := header
  cases hPrior : scan.campaignBaseCalls campaignId with
  | none =>
    rw [hPrior] at budget hBase hTop
    obtain ⟨-, hZero, hReserved⟩ := budget
    simp only [Option.getD_none] at hBase hTop
    refine ⟨hBaseRange, by omega, ⟨by omega, ?_⟩, by omega, by omega⟩
    rw [hardMaxAuthorizedCalls, hBase]
    exact hTop
  | some b =>
    rw [hPrior] at budget hBase hTop
    obtain ⟨-, -, ⟨hLow, -⟩, hReserved, -⟩ := budget
    simp only [Option.getD_some] at hBase hTop
    refine ⟨hBaseRange, by omega, ⟨by omega, ?_⟩, hReserved, by omega⟩
    rw [hardMaxAuthorizedCalls, hBase]
    exact hTop

/-! ## One record -/

theorem Describes.authorization (d : Describes records scan) (hObject : record.isObject = true)
    (tagged : Tagged record .authorization ids) {calls : List AcquisitionCall} {scope : Json δ}
    {c : AuthorizationCounters} (header : HeaderRecord record ids.campaignId calls scope c)
    (hFresh : scan.headers ids.authorizationId = none)
    (hHeader : AuthorizationHeader scan record ids.campaignId calls c) :
    Describes (records ++ [record]) (scan.addAuthorization record ids c) := by
  have hHeaders : ∀ a h, scan.headers a = some h →
      (scan.addAuthorization record ids c).headers a = some h := by
    intro a h hFound
    have hNe : a ≠ ids.authorizationId := by
      rintro rfl
      rw [hFresh] at hFound
      cases hFound
    simpa [LedgerScan.addAuthorization, hNe] using hFound
  have hAttempt : ∀ a, ofAuthorization .attempt (records ++ [record]) a =
      ofAuthorization .attempt records a := by
    intro a
    simp [ofAuthorization_append tagged]
  have hOutcome : ∀ a, ofAuthorization .outcome (records ++ [record]) a =
      ofAuthorization .outcome records a := by
    intro a
    simp [ofAuthorization_append tagged]
  obtain ⟨hMax, hBase, -, hAuthorized, -⟩ := authorizationCounters_eq_some_iff.mp header.counted
  have hExpected := hHeader.2.2.2.2.2.2.1
  have hPrior : ∀ first rest, campaignHeaders records ids.campaignId = first :: rest →
      scan.campaignBaseCalls ids.campaignId = some c.baseCalls := by
    intro first rest hList
    have hFirst : first ∈ campaignHeaders records ids.campaignId := by simp [hList]
    have hRecord := List.mem_filter.mp (List.mem_filter.mp hFirst).1
    obtain ⟨b, hb⟩ := d.base_isSome hRecord.1 (by simpa using hRecord.2)
    rw [hb, Option.getD_some] at hExpected
    rw [hb, hExpected]
  constructor
  case tagged =>
    intro r hMem
    rcases List.mem_append.mp hMem with hMem | hMem
    · exact d.tagged r hMem
    · rw [List.mem_singleton.mp hMem]
      exact ⟨hObject, .authorization, ids, tagged⟩
  case headers =>
    intro a
    rw [ofAuthorization_append tagged]
    by_cases hEq : ids.authorizationId = a
    · subst hEq
      have hNone := d.headers ids.authorizationId
      rw [hFresh] at hNone
      simp [hNone, LedgerScan.addAuthorization]
    · simp [hEq, LedgerScan.addAuthorization, d.headers, Function.update_of_ne (Ne.symm hEq)]
  case known =>
    intro a h hFound
    by_cases hEq : a = ids.authorizationId
    · subst hEq
      have hSame : record = h := by simpa [LedgerScan.addAuthorization] using hFound
      subst hSame
      exact ⟨ids, calls, scope, c, tagged, rfl, header, hHeader.2.2.2.2.1⟩
    · exact d.known a h (by simpa [LedgerScan.addAuthorization, hEq] using hFound)
  case child =>
    intro r hMem hKind
    rcases List.mem_append.mp hMem with hMem | hMem
    · exact (d.child r hMem hKind).mono hHeaders
    · rw [List.mem_singleton.mp hMem, isRecord_of_type tagged.type] at hKind
      simp at hKind
  case attempts =>
    intro a i
    rw [hAttempt]
    exact d.attempts a i
  case outcomes =>
    intro a i
    rw [hOutcome]
    exact d.outcomes a i
  case counts =>
    intro a
    rw [hAttempt]
    by_cases hEq : a = ids.authorizationId
    · subst hEq
      have hNone : ofAuthorization .attempt records ids.authorizationId = [] := by
        rw [List.eq_nil_iff_forall_not_mem]
        intro r hMem
        obtain ⟨hRecord, hKind, hAuth⟩ := mem_ofAuthorization.mp hMem
        obtain ⟨-, kind, rids, rtagged⟩ := d.tagged r hRecord
        rw [isRecord_of_type rtagged.type, decide_eq_true_eq] at hKind
        have hChild := d.child r hRecord (by rw [isRecord_of_type rtagged.type, hKind]; rfl)
        obtain ⟨cids, h, ccalls, i, hChildAuth, -, -, hFound, -⟩ := hChild
        rw [hAuth, text_inj] at hChildAuth
        rw [← hChildAuth, hFresh] at hFound
        cases hFound
      simp [LedgerScan.addAuthorization, hNone]
    · simp [LedgerScan.addAuthorization, hEq, d.counts]
  case lastPosition =>
    intro a
    by_cases hEq : a = ids.authorizationId
    · subst hEq
      exact Or.inl (by simp [LedgerScan.addAuthorization])
    · exact (d.lastPosition a).mono (by simp [LedgerScan.addAuthorization, hEq])
        (hHeaders a) (fun r hr => by rwa [hAttempt])
  case campaign =>
    intro e
    rw [campaignRecordsOf_append tagged]
    by_cases hEq : ids.campaignId = e
    · subst hEq
      simp [LedgerScan.addAuthorization, d.campaign]
    · simp [LedgerScan.addAuthorization, hEq, Function.update_of_ne (Ne.symm hEq), d.campaign]
  case base =>
    intro e
    rw [campaignHeaders_append tagged]
    by_cases hEq : ids.campaignId = e
    · subst hEq
      have hBefore := d.base ids.campaignId
      cases hList : campaignHeaders records ids.campaignId with
      | nil => simp [LedgerScan.addAuthorization, hBase, Json.int?]
      | cons first rest =>
        rw [hList, hPrior first rest hList] at hBefore
        simpa [LedgerScan.addAuthorization] using hBefore
    · simp [LedgerScan.addAuthorization, hEq, Function.update_of_ne (Ne.symm hEq), d.base]
  case first =>
    intro e
    rw [campaignHeaders_append tagged]
    by_cases hEq : ids.campaignId = e
    · subst hEq
      have hBefore := d.first ids.campaignId
      cases hList : campaignHeaders records ids.campaignId with
      | nil =>
        rw [hList] at hBefore
        rw [hBefore] at hExpected
        simp [LedgerScan.addAuthorization, hMax, hExpected, Json.int?]
      | cons first rest =>
        rw [hList, hPrior first rest hList] at hBefore
        simpa [LedgerScan.addAuthorization] using hBefore
    · simp [LedgerScan.addAuthorization, hEq, Function.update_of_ne (Ne.symm hEq), d.first]
  case authorized =>
    intro e
    rw [campaignHeaders_append tagged]
    by_cases hEq : ids.campaignId = e
    · subst hEq
      simp [LedgerScan.addAuthorization, hAuthorized, Json.int?]
    · simp [LedgerScan.addAuthorization, hEq, Function.update_of_ne (Ne.symm hEq), d.authorized]
  case reserved =>
    intro e
    rw [campaignAttempts_append tagged]
    simp [LedgerScan.addAuthorization, d.reserved]
  case budget =>
    intro e
    rw [campaignRecordsOf_append tagged]
    by_cases hEq : ids.campaignId = e
    · subst hEq
      have := budgetState_authorization hHeader (d.budget ids.campaignId)
      simpa [LedgerScan.addAuthorization] using this
    · simpa [LedgerScan.addAuthorization, hEq, Function.update_of_ne (Ne.symm hEq)] using d.budget e

theorem ChildRecord.known {header : Json δ} {calls : List AcquisitionCall} {child : ChildCall δ}
    (tagged : Tagged record kind ids) (hChild : ChildRecord scan record ids header calls child) :
    KnownChild scan record :=
  ⟨ids, header, calls, child.callId, tagged.authorization, tagged.plan, tagged.campaign,
    hChild.found, hChild.plan, hChild.campaign, hChild.decoded, by rw [hChild.listed]; rfl,
    hChild.identified⟩

/-- The campaign of a child record has been initialized by its header. -/
theorem ChildRecord.initialized {header : Json δ} {calls : List AcquisitionCall}
    {child : ChildCall δ} (d : Describes records scan)
    (hChild : ChildRecord scan record ids header calls child) :
    ∃ b, scan.campaignBaseCalls ids.campaignId = some b :=
  d.base_isSome (d.header_mem hChild.found).1 hChild.campaign

theorem Describes.attempt (d : Describes records scan) (hObject : record.isObject = true)
    (tagged : Tagged record .attempt ids) {header : Json δ} {calls : List AcquisitionCall}
    {child : ChildCall δ} (hChild : ChildRecord scan record ids header calls child)
    (hAttempt : AttemptRecord scan record ids child child.position) :
    Describes (records ++ [record])
      (scan.addAttempt record ids child.callId child.position) := by
  constructor
  case tagged =>
    intro r hMem
    rcases List.mem_append.mp hMem with hMem | hMem
    · exact d.tagged r hMem
    · rw [List.mem_singleton.mp hMem]
      exact ⟨hObject, .attempt, ids, tagged⟩
  case headers =>
    intro a
    simp [ofAuthorization_append tagged, LedgerScan.addAttempt, d.headers]
  case known =>
    intro a h hFound
    exact d.known a h hFound
  case child =>
    intro r hMem hKind
    rcases List.mem_append.mp hMem with hMem | hMem
    · exact (d.child r hMem hKind).mono fun _ _ h => h
    · rw [List.mem_singleton.mp hMem]
      exact (hChild.known tagged).mono fun _ _ h => h
  case attempts =>
    intro a i
    rw [ofAuthorization_append tagged]
    by_cases hEq : ids.authorizationId = a
    · subst hEq
      simp only [LedgerScan.addAttempt, List.mem_append, d.attempts, List.mem_singleton,
        Prod.mk.injEq, true_and, and_self, if_true]
      constructor
      · rintro (⟨r, hMem, hCall⟩ | rfl)
        · exact ⟨r, Or.inl hMem, hCall⟩
        · exact ⟨record, Or.inr rfl, hChild.identified⟩
      · rintro ⟨r, hMem | rfl, hCall⟩
        · exact Or.inl ⟨r, hMem, hCall⟩
        · rw [hChild.identified, hash_inj] at hCall
          exact Or.inr hCall.symm
    · simp [LedgerScan.addAttempt, hEq, Ne.symm hEq, d.attempts]
  case outcomes =>
    intro a i
    simp [ofAuthorization_append tagged, LedgerScan.addAttempt, d.outcomes]
  case counts =>
    intro a
    rw [ofAuthorization_append tagged]
    by_cases hEq : ids.authorizationId = a
    · subst hEq
      simp [LedgerScan.addAttempt, d.counts]
    · simp [LedgerScan.addAttempt, hEq, Ne.symm hEq, d.counts]
  case lastPosition =>
    intro a
    by_cases hEq : a = ids.authorizationId
    · subst hEq
      refine Or.inr ⟨header, calls, record, hChild.found, hChild.decoded, ?_, ?_⟩
      · simp [ofAuthorization_append tagged]
      · simp [LedgerScan.addAttempt, recordPosition, hChild.identified, digest?, hash,
          ChildCall.position, hChild.ordered]
    · refine (d.lastPosition a).mono (by simp [LedgerScan.addAttempt, hEq]) (fun _ h => h) ?_
      intro r hr
      simpa [ofAuthorization_append tagged, Ne.symm hEq] using hr
  case campaign =>
    intro e
    rw [campaignRecordsOf_append tagged]
    by_cases hEq : ids.campaignId = e
    · subst hEq
      simp [LedgerScan.addAttempt, d.campaign]
    · simp [LedgerScan.addAttempt, hEq, Function.update_of_ne (Ne.symm hEq), d.campaign]
  case base =>
    intro e
    simp [campaignHeaders_append tagged, LedgerScan.addAttempt, d.base]
  case first =>
    intro e
    simp [campaignHeaders_append tagged, LedgerScan.addAttempt, d.first]
  case authorized =>
    intro e
    simp [campaignHeaders_append tagged, LedgerScan.addAttempt, d.authorized]
  case reserved =>
    intro e
    rw [campaignAttempts_append tagged]
    by_cases hEq : ids.campaignId = e
    · subst hEq
      simp [LedgerScan.addAttempt, d.reserved]
    · simp [LedgerScan.addAttempt, hEq, Function.update_of_ne (Ne.symm hEq), d.reserved]
  case budget =>
    intro e
    rw [campaignRecordsOf_append tagged]
    by_cases hEq : ids.campaignId = e
    · subst hEq
      obtain ⟨b, hBase⟩ := hChild.initialized d
      have hBudget := d.budget ids.campaignId
      rw [hBase] at hBudget
      obtain ⟨hRange, hCount, hAuthorized, hLow, -⟩ := hBudget
      have hRoom := hAttempt.2.2.2.1
      simp only [LedgerScan.addAttempt, hBase, Function.update_self, if_true, List.length_append]
      exact ⟨hRange, by omega, hAuthorized, by omega, hRoom⟩
    · simpa [LedgerScan.addAttempt, hEq, Function.update_of_ne (Ne.symm hEq)] using d.budget e

theorem Describes.outcome (d : Describes records scan) (hObject : record.isObject = true)
    (tagged : Tagged record .outcome ids) {header : Json δ} {calls : List AcquisitionCall}
    {child : ChildCall δ} (hChild : ChildRecord scan record ids header calls child) :
    Describes (records ++ [record]) (scan.addOutcome record ids child.callId) := by
  have hAttempt : ∀ a, ofAuthorization .attempt (records ++ [record]) a =
      ofAuthorization .attempt records a := by
    intro a
    simp [ofAuthorization_append tagged]
  constructor
  case tagged =>
    intro r hMem
    rcases List.mem_append.mp hMem with hMem | hMem
    · exact d.tagged r hMem
    · rw [List.mem_singleton.mp hMem]
      exact ⟨hObject, .outcome, ids, tagged⟩
  case headers =>
    intro a
    simp [ofAuthorization_append tagged, LedgerScan.addOutcome, d.headers]
  case known =>
    intro a h hFound
    exact d.known a h hFound
  case child =>
    intro r hMem hKind
    rcases List.mem_append.mp hMem with hMem | hMem
    · exact (d.child r hMem hKind).mono fun _ _ h => h
    · rw [List.mem_singleton.mp hMem]
      exact (hChild.known tagged).mono fun _ _ h => h
  case attempts =>
    intro a i
    rw [hAttempt]
    exact d.attempts a i
  case outcomes =>
    intro a i
    rw [ofAuthorization_append tagged]
    by_cases hEq : ids.authorizationId = a
    · subst hEq
      simp only [LedgerScan.addOutcome, List.mem_append, d.outcomes, List.mem_singleton,
        Prod.mk.injEq, true_and, and_self, if_true]
      constructor
      · rintro (⟨r, hMem, hCall⟩ | rfl)
        · exact ⟨r, Or.inl hMem, hCall⟩
        · exact ⟨record, Or.inr rfl, hChild.identified⟩
      · rintro ⟨r, hMem | rfl, hCall⟩
        · exact Or.inl ⟨r, hMem, hCall⟩
        · rw [hChild.identified, hash_inj] at hCall
          exact Or.inr hCall.symm
    · simp [LedgerScan.addOutcome, hEq, Ne.symm hEq, d.outcomes]
  case counts =>
    intro a
    rw [hAttempt]
    exact d.counts a
  case lastPosition =>
    intro a
    exact (d.lastPosition a).mono rfl (fun _ h => h) fun r hr => by rwa [hAttempt]
  case campaign =>
    intro e
    rw [campaignRecordsOf_append tagged]
    by_cases hEq : ids.campaignId = e
    · subst hEq
      simp [LedgerScan.addOutcome, d.campaign]
    · simp [LedgerScan.addOutcome, hEq, Function.update_of_ne (Ne.symm hEq), d.campaign]
  case base =>
    intro e
    simp [campaignHeaders_append tagged, LedgerScan.addOutcome, d.base]
  case first =>
    intro e
    simp [campaignHeaders_append tagged, LedgerScan.addOutcome, d.first]
  case authorized =>
    intro e
    simp [campaignHeaders_append tagged, LedgerScan.addOutcome, d.authorized]
  case reserved =>
    intro e
    simp [campaignAttempts_append tagged, LedgerScan.addOutcome, d.reserved]
  case budget =>
    intro e
    rw [campaignRecordsOf_append tagged]
    by_cases hEq : ids.campaignId = e
    · subst hEq
      obtain ⟨b, hBase⟩ := hChild.initialized d
      have hBudget := d.budget ids.campaignId
      rw [hBase] at hBudget
      obtain ⟨hRange, hCount, hRest⟩ := hBudget
      simp only [LedgerScan.addOutcome, hBase, if_true, List.length_append]
      exact ⟨hRange, by omega, hRest⟩
    · simpa [LedgerScan.addOutcome, hEq] using d.budget e

/-! ## Whole ledgers -/

omit [ContentHash δ] in
theorem WellTagged.isObject (tagged : WellTagged record kind ids) : record.isObject = true :=
  tagged.keys.1

theorem Describes.step (d : Describes records scan) {scan' : LedgerScan δ}
    (h : validateRecord scan record = .ok scan') : Describes (records ++ [record]) scan' := by
  obtain ⟨kind, ids, tagged, h⟩ := validateRecord_eq_ok_iff.mp h
  cases kind with
  | authorization =>
    obtain ⟨calls, scope, c, header, hFresh, hHeader, -, -, rfl⟩ :=
      validateAuthorization_eq_ok_iff.mp h
    exact d.authorization tagged.isObject tagged.toTagged header hFresh hHeader
  | attempt =>
    obtain ⟨header, calls, child, hChild, hAttempt, -, rfl⟩ := validateAttempt_eq_ok_iff.mp h
    exact d.attempt tagged.isObject tagged.toTagged hChild hAttempt
  | outcome =>
    obtain ⟨header, calls, child, hChild, -, -, -, -, -, rfl⟩ := validateOutcome_eq_ok_iff.mp h
    exact d.outcome tagged.isObject tagged.toTagged hChild

theorem validateRecords_append {record : Json δ} :
    validateRecords (records ++ [record]) =
      (validateRecords records >>= fun scan => validateRecord scan record) := by
  simp only [validateRecords, List.foldlM_append, List.foldlM_cons, List.foldlM_nil, bind_pure]

/-- Every accepted record list is described by its scan. -/
theorem describes_of_validateRecords (h : validateRecords records = .ok scan) :
    Describes records scan := by
  induction records using List.reverseRecOn generalizing scan with
  | nil =>
    cases h
    exact describes_empty
  | append_singleton records record ih =>
    rw [validateRecords_append, bind_eq_ok_iff] at h
    obtain ⟨prior, hPrior, hStep⟩ := h
    exact (ih hPrior).step hStep

end StockApi.Acquisition

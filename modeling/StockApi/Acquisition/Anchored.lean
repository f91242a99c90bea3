import StockApi.Acquisition.Anchor
import StockApi.Acquisition.Runs

/-!
# The anchors follow the ledger

One accepted record moves the counters of one campaign in one of three ways, and these are the
moves the publishing function accepts. A ledger whose every prefix was published is therefore
`Anchored`: its newest anchor names exactly its records.
-/

namespace StockApi.Acquisition

open Checked CivilTime Relational Relation

variable {δ : Type} [DecidableEq δ] [ContentHash δ]
  {records : List (Json δ)} {record : Json δ} {scan scan' : LedgerScan δ} {campaignId : δ}
  {rows : List (AnchorRow δ)}

/-! ## The counters of one record -/

/-- The base, the authorized and the reserved calls of a campaign. -/
def LedgerScan.counters (scan : LedgerScan δ) (campaignId : δ) : Option Int × Int × Int :=
  (scan.campaignBaseCalls campaignId, scan.campaignAuthorizedCalls campaignId,
    scan.campaignReservedCalls campaignId)

/-- How one record moves the counters of its campaign. -/
inductive CounterMove (scan scan' : LedgerScan δ) (campaignId : δ) (base : Int) : Prop
  | start (fresh : scan.campaignBaseCalls campaignId = none)
      (counters : scan'.counters campaignId = (some base, base, 0))
  | extend (kept : scan.campaignBaseCalls campaignId = some base) (authorized : Int)
      (more : scan.campaignAuthorizedCalls campaignId ≤ authorized)
      (counters : scan'.counters campaignId =
        (some base, authorized, scan.campaignReservedCalls campaignId))
  | reserve (kept : scan.campaignBaseCalls campaignId = some base)
      (counters : scan'.counters campaignId = (some base, scan.campaignAuthorizedCalls campaignId,
        scan.campaignReservedCalls campaignId + 1))

theorem AuthorizationHeader.move {calls : List AcquisitionCall} {c : AuthorizationCounters}
    {ids : RecordIds δ} (d : Describes records scan)
    (header : AuthorizationHeader scan record ids.campaignId calls c) :
    CounterMove scan (scan.addAuthorization record ids c) ids.campaignId c.baseCalls := by
  obtain ⟨-, -, -, -, hMax, hMaxRange, hBase, -, hDelta, hAuthorized, -⟩ := header
  have hBudget := d.budget ids.campaignId
  cases hPrior : scan.campaignBaseCalls ids.campaignId with
  | none =>
    rw [hPrior] at hBudget hBase
    obtain ⟨-, hZero, hReserved⟩ := hBudget
    rw [Option.getD_none] at hBase
    refine .start hPrior ?_
    have hAll : c.authorizedCalls = c.baseCalls := by omega
    simp [LedgerScan.counters, LedgerScan.addAuthorization, hReserved, hAll]
  | some base =>
    rw [hPrior, Option.getD_some] at hBase
    refine .extend (by rw [hPrior, hBase]) c.authorizedCalls (by omega) ?_
    simp [LedgerScan.counters, LedgerScan.addAuthorization]

/-- What one accepted record does to the campaigns. -/
structure RecordMove (records : List (Json δ)) (scan scan' : LedgerScan δ) (record : Json δ)
    (campaignId : δ) (base : Int) : Prop where
  named : record.field "campaign_id" = hash campaignId
  moved : CounterMove scan scan' campaignId base
  others : ∀ e, e ≠ campaignId → scan'.counters e = scan.counters e
  grown : ∀ e, campaignRecordsOf (records ++ [record]) e =
    if campaignId = e then campaignRecordsOf records e ++ [record] else campaignRecordsOf records e

theorem Describes.move (d : Describes records scan) (h : validateRecord scan record = .ok scan') :
    ∃ campaignId base, RecordMove records scan scan' record campaignId base := by
  obtain ⟨kind, ids, tagged, h⟩ := validateRecord_eq_ok_iff.mp h
  have hGrown : ∀ c, campaignRecordsOf (records ++ [record]) c =
      if ids.campaignId = c then campaignRecordsOf records c ++ [record]
      else campaignRecordsOf records c := campaignRecordsOf_append tagged.toTagged
  cases kind with
  | authorization =>
    obtain ⟨calls, scope, c, -, -, hHeader, -, -, rfl⟩ := validateAuthorization_eq_ok_iff.mp h
    refine ⟨ids.campaignId, c.baseCalls, tagged.campaign, hHeader.move d, ?_, hGrown⟩
    intro e hOther
    simp [LedgerScan.counters, LedgerScan.addAuthorization, hOther]
  | attempt =>
    obtain ⟨header, calls, child, hChild, -, -, rfl⟩ := validateAttempt_eq_ok_iff.mp h
    obtain ⟨base, hBase⟩ := hChild.initialized d
    refine ⟨ids.campaignId, base, tagged.campaign, .reserve hBase ?_, ?_, hGrown⟩
    · simp [LedgerScan.counters, LedgerScan.addAttempt, hBase]
    · intro e hOther
      simp [LedgerScan.counters, LedgerScan.addAttempt, hOther]
  | outcome =>
    obtain ⟨header, calls, child, hChild, -, -, -, -, -, rfl⟩ := validateOutcome_eq_ok_iff.mp h
    obtain ⟨base, hBase⟩ := hChild.initialized d
    refine ⟨ids.campaignId, base, tagged.campaign, .extend hBase _ le_rfl ?_, fun _ _ => rfl, hGrown⟩
    simp [LedgerScan.counters, LedgerScan.addOutcome, hBase]

/-! ## The checkpoint of a described ledger -/

def checkpointOf (records : List (Json δ)) (scan : LedgerScan δ) (campaignId : δ) (base : Int) :
    Checkpoint δ where
  checkpointNumber := records.length
  ledgerSha256 := contentId (.arr records)
  campaignId := campaignId
  campaignCheckpointNumber := (campaignRecordsOf records campaignId).length
  campaignLedgerSha256 := contentId (.arr (campaignRecordsOf records campaignId))
  baseCalls := base
  authorizedCalls := scan.campaignAuthorizedCalls campaignId
  reservedCalls := scan.campaignReservedCalls campaignId

omit [ContentHash δ] in
theorem campaignRecordsOf_length_le (campaignId : δ) :
    (campaignRecordsOf records campaignId).length ≤ records.length := List.length_filter_le _ _

theorem Describes.checkpoint_bounded (d : Describes records scan) {base : Int}
    (hBase : scan.campaignBaseCalls campaignId = some base) :
    (checkpointOf records scan campaignId base).Bounded := by
  have hBudget := d.budget campaignId
  rw [hBase] at hBudget
  obtain ⟨hRange, hCount, ⟨hLow, hHigh⟩, hReserved⟩ := hBudget
  have hLength : (campaignRecordsOf records campaignId).length ≤ records.length :=
    campaignRecordsOf_length_le campaignId
  refine ⟨?_, ⟨?_, ?_⟩, hRange, ⟨hLow, hHigh⟩, hReserved⟩ <;>
  · simp only [checkpointOf]
    omega

/-- A campaign with a base has a publishable checkpoint, and only such a campaign has one. -/
theorem Describes.campaignHighWater (d : Describes records scan) {scope : Json δ}
    {state : CampaignLedgerState δ} (view : StateOf records scan scope state) {base : Int}
    (hBase : scan.campaignBaseCalls (contentId scope) = some base) :
    ∃ requested, campaignHighWater state = .ok requested ∧
      requested.toCheckpoint = checkpointOf records scan (contentId scope) base := by
  have hBounded := d.checkpoint_bounded hBase
  have hCount := (d.budget (contentId scope))
  rw [hBase] at hCount
  have hLength : (campaignRecordsOf records (contentId scope)).length ≤ records.length :=
    campaignRecordsOf_length_le (contentId scope)
  have hPublishable : ¬ ((campaignRecordsOf records (contentId scope)).length < 1 ∨
      records.length < 1) := by
    have := hCount.2.1
    omega
  rw [Acquisition.campaignHighWater, view.baseCalls, hBase]
  simp only [view.globalRecordCount, view.globalLedgerSha256, view.campaignId, view.recordCount,
    view.ledgerSha256, view.authorizedCalls, view.reservedCalls, if_neg hPublishable]
  exact ⟨_, HighWater.construct_eq_ok hBounded none, rfl⟩

theorem base_of_campaignHighWater {scope : Json δ} {state : CampaignLedgerState δ}
    (view : StateOf records scan scope state) {requested : HighWater δ}
    (h : Acquisition.campaignHighWater state = .ok requested) :
    ∃ base, scan.campaignBaseCalls (contentId scope) = some base := by
  rw [Acquisition.campaignHighWater, view.baseCalls] at h
  cases hBase : scan.campaignBaseCalls (contentId scope) with
  | none =>
    rw [hBase] at h
    cases h
  | some base => exact ⟨base, rfl⟩

/-! ## The invariant -/

/-- A row names some record lists no longer than the ledger and the campaign are now. -/
structure AnchorRow.Earlier (row : AnchorRow δ) (records : List (Json δ)) : Prop where
  bounded : row.toCheckpoint.Bounded
  ledger : ∃ xs : List (Json δ), xs.length ≤ records.length ∧ row.checkpointNumber = xs.length ∧
    row.ledgerSha256 = contentId (.arr xs)
  campaign : ∃ xs : List (Json δ), xs.length ≤ (campaignRecordsOf records row.campaignId).length ∧
    row.campaignCheckpointNumber = xs.length ∧ row.campaignLedgerSha256 = contentId (.arr xs)

/-- The newest anchors, of the ledger and of each campaign, name exactly its records. -/
structure Anchored (records : List (Json δ)) (scan : LedgerScan δ) (rows : List (AnchorRow δ)) :
    Prop where
  missing : latestAnchor rows = none → records = []
  latest : ∀ row, latestAnchor rows = some row →
    row.checkpointNumber = records.length ∧ row.ledgerSha256 = contentId (.arr records)
  campaignMissing : ∀ c, latestCampaignAnchor rows c = none → campaignRecordsOf records c = []
  campaignLatest : ∀ c row, latestCampaignAnchor rows c = some row →
    row.campaignCheckpointNumber = (campaignRecordsOf records c).length ∧
    row.campaignLedgerSha256 = contentId (.arr (campaignRecordsOf records c)) ∧
    scan.counters c = (some row.baseCalls, row.authorizedCalls, row.reservedCalls)
  earlier : ∀ row ∈ rows, row.Earlier records

theorem anchored_empty : Anchored ([] : List (Json δ)) LedgerScan.empty [] where
  missing _ := rfl
  latest _ h := by cases h
  campaignMissing _ _ := rfl
  campaignLatest _ _ h := by cases h
  earlier := by simp

/-- The row that publishing a checkpoint inserts. -/
def Checkpoint.row (requested : Checkpoint δ) (tx : Transaction) : AnchorRow δ :=
  { requested with schemaVersion := 1, recordedAt := tx.clock, creatorXid := tx.txid }

omit [DecidableEq δ] [ContentHash δ] in
theorem arr_ne_of_length_lt {xs ys : List (Json δ)} (h : xs.length < ys.length) :
    (Json.arr xs) ≠ .arr ys := by
  intro hEq
  cases hEq
  exact lt_irrefl _ h

omit [DecidableEq δ] [ContentHash δ] in
theorem CounterMove.base {base : Int} (move : CounterMove scan scan' campaignId base) :
    scan'.campaignBaseCalls campaignId = some base := by
  cases move with
  | start _ h => exact congrArg Prod.fst h
  | extend _ _ _ h => exact congrArg Prod.fst h
  | reserve _ h => exact congrArg Prod.fst h

omit [DecidableEq δ] [ContentHash δ] in
theorem Checkpoint.Bounded.not_invalid {requested : Checkpoint δ} (h : requested.Bounded) :
    ¬ AnchorInvalid requested := by
  obtain ⟨hNumber, hCampaign, hBase, hAuthorized, hReserved⟩ := h
  simp only [AnchorInvalid, hCampaign, hBase, hAuthorized, hReserved, and_self, not_true, or_false]
  omega

omit [DecidableEq δ] [ContentHash δ] in
theorem Checkpoint.Bounded.checks {requested : Checkpoint δ} (h : requested.Bounded)
    (tx : Transaction) : (requested.row tx).Checks :=
  ⟨rfl, h.checkpoint, h.campaignCheckpoint, h.base, h.authorized, h.reserved, tx.positive⟩

omit [DecidableEq δ] [ContentHash δ] in
theorem not_doesNotExtendCampaign {requested : Checkpoint δ} {prior : AnchorRow δ}
    (hNumber : requested.campaignCheckpointNumber = prior.campaignCheckpointNumber + 1)
    (hDigest : requested.campaignLedgerSha256 ≠ prior.campaignLedgerSha256)
    (hBase : requested.baseCalls = prior.baseCalls)
    (hMove : (prior.authorizedCalls ≤ requested.authorizedCalls ∧
        requested.reservedCalls = prior.reservedCalls) ∨
      (requested.authorizedCalls = prior.authorizedCalls ∧
        requested.reservedCalls = prior.reservedCalls + 1)) :
    ¬ DoesNotExtendCampaign requested prior := by
  rintro (h | h | h | h | h | h)
  · exact h hNumber
  · exact hDigest h
  · exact h hBase
  all_goals omega

section Publish

variable {base : Int} (free : CollisionFree δ) (anchored : Anchored records scan rows)
  (move : RecordMove records scan scan' record campaignId base)
include anchored move

omit [ContentHash δ] anchored in
theorem RecordMove.campaign_grown :
    campaignRecordsOf (records ++ [record]) campaignId =
      campaignRecordsOf records campaignId ++ [record] := by
  rw [move.grown, if_pos rfl]

include free in
omit move in
theorem Anchored.extends_global :
    ¬ DoesNotExtendGlobal (checkpointOf (records ++ [record]) scan' campaignId base)
      (latestAnchor rows) := by
  cases hLatest : latestAnchor rows with
  | none =>
    have hEmpty := anchored.missing hLatest
    simp [DoesNotExtendGlobal, checkpointOf, hEmpty]
  | some prior =>
    obtain ⟨hNumber, hDigest⟩ := anchored.latest prior hLatest
    have hOther : (.arr (records ++ [record]) : Json δ) ≠ .arr records :=
      (arr_ne_of_length_lt (by simp)).symm
    simp [DoesNotExtendGlobal, checkpointOf, hNumber, hDigest, free.eq_iff, hOther]

include free in
/-- The move of the counters is one that the publishing function lets through. -/
theorem Anchored.extends_campaign (d : Describes records scan) :
    refuseCampaign (checkpointOf (records ++ [record]) scan' campaignId base)
      (latestCampaignAnchor rows campaignId) = .ok () := by
  have hGrown := move.campaign_grown
  cases hLatest : latestCampaignAnchor rows campaignId with
  | none =>
    have hEmpty := anchored.campaignMissing campaignId hLatest
    have hBudget := d.budget campaignId
    have hFresh : scan.campaignBaseCalls campaignId = none := by
      cases hBase : scan.campaignBaseCalls campaignId with
      | none => rfl
      | some b =>
        rw [hBase, hEmpty] at hBudget
        exact absurd hBudget.2.1 (by simp)
    have hCounters : scan'.counters campaignId = (some base, base, 0) := by
      cases move.moved with
      | start _ h => exact h
      | extend kept => simp [hFresh] at kept
      | reserve kept => simp [hFresh] at kept
    simp only [LedgerScan.counters, Prod.mk.injEq] at hCounters
    apply refuseIf_of_not
    simp [NotCanonicalStart, checkpointOf, hGrown, hEmpty, hCounters]
  | some prior =>
    obtain ⟨hNumber, hDigest, hPrior⟩ := anchored.campaignLatest campaignId prior hLatest
    have hOther : (.arr (campaignRecordsOf records campaignId ++ [record]) : Json δ) ≠
        .arr (campaignRecordsOf records campaignId) := (arr_ne_of_length_lt (by simp)).symm
    simp only [LedgerScan.counters, Prod.mk.injEq] at hPrior
    obtain ⟨hBase, hAuthorized, hReserved⟩ := hPrior
    have hSame : prior.baseCalls = base := by
      cases move.moved with
      | start fresh => simp [fresh] at hBase
      | extend kept => simpa [hBase] using kept
      | reserve kept => simpa [hBase] using kept
    apply refuseIf_of_not
    apply not_doesNotExtendCampaign
    · simp [checkpointOf, hGrown, hNumber]
    · simp [checkpointOf, hGrown, hDigest, free.eq_iff, hOther]
    · exact hSame.symm
    · cases move.moved with
      | start fresh => simp [fresh] at hBase
      | extend kept authorized more counters =>
        simp only [LedgerScan.counters, Prod.mk.injEq] at counters
        simp only [checkpointOf, counters]
        omega
      | reserve kept counters =>
        simp only [LedgerScan.counters, Prod.mk.injEq] at counters
        simp only [checkpointOf, counters]
        omega

include free in
theorem Anchored.unique (tx : Transaction) :
    ((checkpointOf (records ++ [record]) scan' campaignId base).row tx).Unique rows := by
  intro other hMem
  obtain ⟨-, ⟨xs, hShort, hNumber, hDigest⟩, ⟨ys, hCampaignShort, hCampaignNumber, hCampaignDigest⟩⟩ :=
    anchored.earlier other hMem
  have hGrown := move.campaign_grown
  refine ⟨?_, ?_, ?_, ?_⟩
  · simp only [Checkpoint.row, checkpointOf, hNumber, List.length_append, List.length_singleton]
    omega
  · simp only [Checkpoint.row, checkpointOf, hDigest]
    exact fun h => arr_ne_of_length_lt (by simp; omega) (free h)
  · rintro ⟨hCampaign, hSame⟩
    simp only [Checkpoint.row, checkpointOf, hGrown, List.length_append, List.length_singleton]
      at hCampaign hSame
    rw [hCampaign] at hCampaignShort
    omega
  · rintro ⟨hCampaign, hSame⟩
    simp only [Checkpoint.row, checkpointOf, hGrown] at hCampaign hSame
    rw [hCampaign] at hCampaignShort
    rw [hCampaignDigest] at hSame
    exact arr_ne_of_length_lt (by simp; omega) (free hSame)

include free in
/-- The next checkpoint is accepted and becomes the last row. -/
theorem Anchored.publishes (d : Describes records scan)
    (d' : Describes (records ++ [record]) scan') (tx : Transaction) :
    publishAnchor tx (checkpointOf (records ++ [record]) scan' campaignId base) rows =
      .ok ([(checkpointOf (records ++ [record]) scan' campaignId base).row tx],
        rows ++ [(checkpointOf (records ++ [record]) scan' campaignId base).row tx]) := by
  set requested := checkpointOf (records ++ [record]) scan' campaignId base with hRequested
  have hBounded : requested.Bounded := d'.checkpoint_bounded move.moved.base
  have hUnique := anchored.unique free move tx
  have hOlder : ∀ other ∈ rows, other.checkpointNumber ≠ requested.checkpointNumber :=
    fun other hMem => (hUnique other hMem).1
  have hReturned : (rows ++ [requested.row tx]).filter
      (fun row => decide (row.checkpointNumber = requested.checkpointNumber)) =
        [requested.row tx] := by
    rw [List.filter_append, List.filter_eq_nil_iff.mpr (by simpa using hOlder)]
    simp [Checkpoint.row]
  have hExtend : extendAnchors tx requested rows =
      .ok ([requested.row tx], rows ++ [requested.row tx]) := by
    have hInsert : insertAnchor (requested.row tx) rows = .ok (rows ++ [requested.row tx]) := by
      rw [insertAnchor, refuseIf_of_not (not_not.mpr (hBounded.checks tx)), ok_bind,
        refuseIf_of_not (not_not.mpr hUnique)]
      rfl
    rw [extendAnchors, refuseIf_of_not (anchored.extends_global free), ok_bind]
    change (refuseCampaign requested (latestCampaignAnchor rows campaignId) >>= _) = _
    rw [anchored.extends_campaign free move d, ok_bind]
    change (insertAnchor (requested.row tx) rows >>= _) = _
    rw [hInsert, ok_bind, hReturned]
    rfl
  rw [publishAnchor, if_neg hBounded.not_invalid]
  cases hLatest : latestAnchor rows with
  | none => exact hExtend
  | some prior =>
    have hNumber := (anchored.latest prior hLatest).1
    have hLater : ¬ requested.checkpointNumber ≤ prior.checkpointNumber := by
      simp only [hRequested, checkpointOf, hNumber, List.length_append, List.length_singleton]
      omega
    simp only [if_neg hLater]
    exact hExtend

omit move in
theorem Anchored.older {row : AnchorRow δ} (hMem : row ∈ rows) :
    row.checkpointNumber ≤ records.length := by
  obtain ⟨-, ⟨xs, hShort, hNumber, -⟩, -⟩ := anchored.earlier row hMem
  omega

omit move in
theorem Anchored.campaign_older {row : AnchorRow δ} (hMem : row ∈ rows) :
    row.campaignCheckpointNumber ≤ (campaignRecordsOf records row.campaignId).length := by
  obtain ⟨-, -, ⟨xs, hShort, hNumber, -⟩⟩ := anchored.earlier row hMem
  omega

omit move in
theorem Anchored.latest_append (row : AnchorRow δ) (h : records.length < row.checkpointNumber) :
    latestAnchor (rows ++ [row]) = some row :=
  latestBy_append_of_lt fun _ hMem => (anchored.older hMem).trans_lt h

omit anchored move in
theorem length_lt_checkpointNumber :
    (records.length : Int) <
      (checkpointOf (records ++ [record]) scan' campaignId base).checkpointNumber := by
  simp only [checkpointOf, List.length_append, List.length_singleton]
  omega

/-- Of the campaigns, only the one that published has a new newest anchor. -/
theorem Anchored.latestCampaign_published (tx : Transaction) (c : δ) :
    latestCampaignAnchor
        (rows ++ [(checkpointOf (records ++ [record]) scan' campaignId base).row tx]) c =
      if campaignId = c then some ((checkpointOf (records ++ [record]) scan' campaignId base).row tx)
      else latestCampaignAnchor rows c := by
  rw [latestCampaignAnchor, List.filter_append]
  by_cases hEq : campaignId = c
  · subst hEq
    rw [if_pos rfl, List.filter_cons_of_pos (by simp [Checkpoint.row, checkpointOf]), List.filter_nil]
    apply latestBy_append_of_lt
    intro other hMem
    obtain ⟨hRow, hCampaign⟩ := List.mem_filter.mp hMem
    have hOlder := anchored.campaign_older hRow
    rw [of_decide_eq_true hCampaign] at hOlder
    simp only [Checkpoint.row, checkpointOf, move.campaign_grown, List.length_append,
      List.length_singleton]
    omega
  · rw [if_neg hEq, List.filter_cons_of_neg (by simpa [Checkpoint.row, checkpointOf] using hEq)]
    simp [latestCampaignAnchor]

omit [ContentHash δ] anchored in
theorem RecordMove.campaign_le (c : δ) :
    (campaignRecordsOf records c).length ≤ (campaignRecordsOf (records ++ [record]) c).length := by
  rw [move.grown]
  split <;> simp

theorem Anchored.step (d' : Describes (records ++ [record]) scan') (tx : Transaction) :
    Anchored (records ++ [record]) scan'
      (rows ++ [(checkpointOf (records ++ [record]) scan' campaignId base).row tx]) := by
  have hLatest := anchored.latest_append
    ((checkpointOf (records ++ [record]) scan' campaignId base).row tx) length_lt_checkpointNumber
  have hCampaign := anchored.latestCampaign_published move tx
  constructor
  case missing => simp [hLatest]
  case latest =>
    intro found hFound
    rw [hLatest, Option.some.injEq] at hFound
    subst hFound
    exact ⟨rfl, rfl⟩
  case campaignMissing =>
    intro c hMissing
    rw [hCampaign] at hMissing
    by_cases hEq : campaignId = c
    · simp [hEq] at hMissing
    · rw [if_neg hEq] at hMissing
      rw [move.grown, if_neg hEq, anchored.campaignMissing c hMissing]
  case campaignLatest =>
    intro c found hFound
    rw [hCampaign] at hFound
    by_cases hEq : campaignId = c
    · subst hEq
      rw [if_pos rfl, Option.some.injEq] at hFound
      subst hFound
      refine ⟨rfl, rfl, ?_⟩
      simp [LedgerScan.counters, Checkpoint.row, checkpointOf, move.moved.base]
    · rw [if_neg hEq] at hFound
      rw [move.grown, if_neg hEq, move.others c (Ne.symm hEq)]
      exact anchored.campaignLatest c found hFound
  case earlier =>
    intro found hMem
    rcases List.mem_append.mp hMem with hMem | hMem
    · obtain ⟨hBounded, ⟨xs, hShort, hLedger⟩, ⟨ys, hCampaignShort, hCampaignLedger⟩⟩ :=
        anchored.earlier found hMem
      refine ⟨hBounded, ⟨xs, ?_, hLedger⟩, ⟨ys, ?_, hCampaignLedger⟩⟩
      · simp only [List.length_append]
        omega
      · exact hCampaignShort.trans (move.campaign_le _)
    · rw [List.mem_singleton.mp hMem]
      exact ⟨d'.checkpoint_bounded move.moved.base, ⟨_, le_rfl, rfl, rfl⟩, ⟨_, le_rfl, rfl, rfl⟩⟩

/-- The same checkpoint again returns the row that is there. -/
theorem Anchored.republishes (d' : Describes (records ++ [record]) scan') (tx again : Transaction) :
    publishAnchor again (checkpointOf (records ++ [record]) scan' campaignId base)
        (rows ++ [(checkpointOf (records ++ [record]) scan' campaignId base).row tx]) =
      .ok ([(checkpointOf (records ++ [record]) scan' campaignId base).row tx],
        rows ++ [(checkpointOf (records ++ [record]) scan' campaignId base).row tx]) := by
  have hBounded := d'.checkpoint_bounded move.moved.base
  rw [publishAnchor, if_neg hBounded.not_invalid,
    anchored.latest_append ((checkpointOf (records ++ [record]) scan' campaignId base).row tx)
      length_lt_checkpointNumber]
  simp [Checkpoint.row]

end Publish

/-! ## Comparing a ledger with its newest anchor -/

omit [DecidableEq δ] [ContentHash δ] in
theorem latestHighWater_of_bounded (h : ∀ row ∈ rows, row.toCheckpoint.Bounded) :
    ∃ visible, latestHighWater true rows = .ok visible ∧
      visible.map (·.toCheckpoint) = (latestAnchor rows).map (·.toCheckpoint) := by
  rw [latestHighWater, if_neg (by simp)]
  cases hLatest : latestAnchor rows with
  | none => exact ⟨none, rfl, rfl⟩
  | some row =>
    have hBounded := h row (mem_of_latestBy hLatest)
    refine ⟨some { row.toCheckpoint with recordedAt := some row.recordedAt, bounded := hBounded }, ?_, rfl⟩
    simp only [fromValues, HighWater.construct_eq_ok hBounded]
    rfl

/-- The comparison answers whether the records are exactly those last published. -/
theorem Anchored.matches_iff (free : CollisionFree δ) (anchored : Anchored records scan rows)
    {state : CampaignLedgerState δ} {other : List (Json δ)}
    (hCount : state.globalRecordCount = other.length)
    (hDigest : state.globalLedgerSha256 = contentId (.arr other)) :
    ∃ visible, latestHighWater true rows = .ok visible ∧
      (matchesHighWater state visible = true ↔ other = records) := by
  obtain ⟨visible, hVisible, hSame⟩ :=
    latestHighWater_of_bounded fun row hMem => (anchored.earlier row hMem).bounded
  refine ⟨visible, hVisible, ?_⟩
  cases hLatest : latestAnchor rows with
  | none =>
    have hEmpty := anchored.missing hLatest
    have hNone : visible = none := by simpa [hLatest] using hSame
    rw [matchesHighWater, hNone, hEmpty, hCount]
    by_cases hOther : other = [] <;> simp [hOther]
  | some row =>
    obtain ⟨hNumber, hRow⟩ := anchored.latest row hLatest
    have hPositive := (anchored.earlier row (mem_of_latestBy hLatest)).bounded.checkpoint
    rw [hLatest, Option.map_some, Option.map_eq_some_iff] at hSame
    obtain ⟨seen, rfl, hSeen⟩ := hSame
    have hSeenNumber : seen.checkpointNumber = records.length := by rw [hSeen, hNumber]
    have hSeenDigest : seen.ledgerSha256 = contentId (.arr records) := by rw [hSeen, hRow]
    rw [matchesHighWater, hCount, hDigest]
    by_cases hOther : other = []
    · subst hOther
      have hNonempty : records ≠ [] := by
        rintro rfl
        simp [hNumber] at hPositive
      simp [hNonempty.symm]
    · have hLength : ¬ other.length = 0 := by simpa using hOther
      rw [if_neg hLength]
      simp only [Option.any_some, decide_eq_true_eq, hSeenNumber, hSeenDigest, free.eq_iff]
      constructor
      · rintro ⟨-, hEq⟩
        cases hEq
        rfl
      · rintro rfl
        exact ⟨rfl, rfl⟩

theorem Anchored.requires (free : CollisionFree δ) (anchored : Anchored records scan rows)
    {state : CampaignLedgerState δ} (hCount : state.globalRecordCount = records.length)
    (hDigest : state.globalLedgerSha256 = contentId (.arr records)) :
    requireDatabaseHighWater true rows state = .ok () := by
  obtain ⟨visible, hVisible, hMatches⟩ := anchored.matches_iff free hCount hDigest
  rw [requireDatabaseHighWater, hVisible]
  exact refuseIf_of_not (by simp [hMatches.mpr rfl])

theorem Anchored.refuses (free : CollisionFree δ) (anchored : Anchored records scan rows)
    {state : CampaignLedgerState δ} {other : List (Json δ)}
    (hCount : state.globalRecordCount = other.length)
    (hDigest : state.globalLedgerSha256 = contentId (.arr other)) (hOther : other ≠ records) :
    requireDatabaseHighWater true rows state = .error (.acquisitionRefused
      "local acquisition ledger does not match the database high-water checkpoint") := by
  obtain ⟨visible, hVisible, hMatches⟩ := anchored.matches_iff free hCount hDigest
  rw [requireDatabaseHighWater, hVisible]
  exact refuseIf_of (by simpa [hOther] using hMatches)

/-! ## Published ledgers -/

theorem stateOf_of_campaignState (free : CollisionFree δ) {file : LedgerFile δ} {scope : Json δ}
    {state : CampaignLedgerState δ} (h : campaignState file campaignId scope = .ok state) :
    campaignId = contentId scope ∧ ∃ scan, validateRecords file.lines = .ok scan ∧
      StateOf file.lines scan scope state := by
  rw [Acquisition.campaignState, bind_eq_ok_iff] at h
  obtain ⟨records, hRead, hState⟩ := h
  obtain ⟨rfl, scan, hScan⟩ := readRecords_eq_ok hRead
  have hNamed : campaignId = contentId scope := by
    by_contra hOther
    rw [campaignStateFromRecords, if_pos hOther] at hState
    cases hState
  subst hNamed
  obtain ⟨found, hFound, view⟩ := (describes_of_validateRecords hScan).campaignState free scope
  rw [hFound, Except.ok.injEq] at hState
  exact ⟨rfl, scan, hScan, hState ▸ view⟩

/-- Every prefix of the ledger was published, in order, as the checkpoint of some campaign. -/
inductive Published : List (Json δ) → List (AnchorRow δ) → Prop
  | empty : Published [] []
  | publish {records : List (Json δ)} {record : Json δ} {rows rows' returned : List (AnchorRow δ)}
      {campaignId : δ} {scope : Json δ} {state : CampaignLedgerState δ} {requested : HighWater δ}
      (earlier : Published records rows) (tx : Transaction)
      (read : campaignState (some (records ++ [record])) campaignId scope = .ok state)
      (built : campaignHighWater state = .ok requested)
      (accepted : publishAnchor tx requested.toCheckpoint rows = .ok (returned, rows')) :
      Published (records ++ [record]) rows'

/-- Only the campaign of the new record has a checkpoint that extends the anchors. -/
theorem Anchored.publisher (anchored : Anchored records scan rows)
    {campaignId : δ} {base : Int} (move : RecordMove records scan scan' record campaignId base)
    {c : δ} {b : Int} (hBase : scan'.campaignBaseCalls c = some b)
    (d' : Describes (records ++ [record]) scan') {tx : Transaction} {returned rows' : List (AnchorRow δ)}
    (h : publishAnchor tx (checkpointOf (records ++ [record]) scan' c b) rows =
      .ok (returned, rows')) : c = campaignId := by
  by_contra hOther
  have hSame : campaignRecordsOf (records ++ [record]) c = campaignRecordsOf records c := by
    rw [move.grown, if_neg (Ne.symm hOther)]
  have hInitialized : campaignRecordsOf records c ≠ [] := by
    intro hEmpty
    have hBudget := d'.budget c
    rw [hBase, hSame, hEmpty] at hBudget
    exact absurd hBudget.2.1 (by simp)
  have hRefused : extendAnchors tx (checkpointOf (records ++ [record]) scan' c b) rows ≠
      .ok (returned, rows') := by
    intro hExtend
    rw [extendAnchors, refuseIf_bind_eq_ok_iff, bind_eq_ok_iff] at hExtend
    obtain ⟨-, _, hCampaign, -⟩ := hExtend
    cases hLatest : latestCampaignAnchor rows c with
    | none => exact hInitialized (anchored.campaignMissing c hLatest)
    | some prior =>
      obtain ⟨hNumber, -⟩ := anchored.campaignLatest c prior hLatest
      simp only [checkpointOf, hLatest, refuseCampaign, refuseIf_eq_ok_iff, DoesNotExtendCampaign,
        not_or, hSame, hNumber] at hCampaign
      omega
  have hBounded := d'.checkpoint_bounded hBase
  rw [publishAnchor, if_neg hBounded.not_invalid] at h
  cases hLatest : latestAnchor rows with
  | none =>
    rw [hLatest] at h
    exact hRefused h
  | some prior =>
    have hLater : ¬ (checkpointOf (records ++ [record]) scan' c b).checkpointNumber ≤
        prior.checkpointNumber := by
      rw [(anchored.latest prior hLatest).1, not_le]
      exact length_lt_checkpointNumber
    rw [hLatest] at h
    simp only [if_neg hLater] at h
    exact hRefused h

theorem validateRecords_append_singleton (h : validateRecords (records ++ [record]) = .ok scan') :
    ∃ scan, validateRecords records = .ok scan ∧ validateRecord scan record = .ok scan' := by
  rw [validateRecords_append, bind_eq_ok_iff] at h
  exact h

/-- A published ledger is anchored. -/
theorem Published.anchored (free : CollisionFree δ) (published : Published records rows)
    (h : validateRecords records = .ok scan) : Anchored records scan rows := by
  induction published generalizing scan with
  | empty =>
    cases h
    exact anchored_empty
  | publish earlier tx read built accepted ih =>
    obtain ⟨rfl, scan', hScan, view⟩ := stateOf_of_campaignState free read
    obtain rfl : scan' = scan := Except.ok.inj (hScan.symm.trans h)
    obtain ⟨prior, hPrior, hStep⟩ := validateRecords_append_singleton h
    have d := describes_of_validateRecords hPrior
    have d' := describes_of_validateRecords h
    obtain ⟨campaignId, base, move⟩ := d.move hStep
    obtain ⟨b, hBase⟩ := base_of_campaignHighWater view built
    obtain ⟨requested, hRequested, hCheckpoint⟩ := d'.campaignHighWater view hBase
    rw [built, Except.ok.injEq] at hRequested
    rw [hRequested, hCheckpoint] at accepted
    have anchored := ih hPrior
    have hCampaign := anchored.publisher move hBase d' accepted
    rw [hCampaign] at accepted hBase
    have hSame : b = base := by simpa [hBase] using move.moved.base
    rw [hSame, anchored.publishes free move d d' tx] at accepted
    cases accepted
    exact anchored.step move d' tx

omit [ContentHash δ] in
/-- Over a connection that works, what the function returned is confirmed. -/
theorem publishHighWater_reliable {tx : Transaction} {requested : HighWater δ} {row : AnchorRow δ}
    {rows' : List (AnchorRow δ)}
    (accepted : publishAnchor tx requested.toCheckpoint rows = .ok ([row], rows'))
    (same : row.toCheckpoint = requested.toCheckpoint) (latest : latestAnchor rows' = some row) :
    ∃ visible, publishHighWater .reliable tx requested rows = (.ok visible, rows') ∧
      visible.toCheckpoint = requested.toCheckpoint := by
  have hBounded : row.toCheckpoint.Bounded := same ▸ requested.bounded
  have hRow : fromValues row =
      .ok { row.toCheckpoint with recordedAt := some row.recordedAt, bounded := hBounded } :=
    HighWater.construct_eq_ok hBounded _
  refine ⟨{ row.toCheckpoint with recordedAt := some row.recordedAt, bounded := hBounded }, ?_, same⟩
  have hVisible : latestHighWater true rows' =
      .ok (some { row.toCheckpoint with recordedAt := some row.recordedAt, bounded := hBounded }) := by
    rw [latestHighWater, if_neg (by simp), latest]
    simp only [hRow]
    rfl
  have hSame : ¬ requested.sameState
      (some { row.toCheckpoint with recordedAt := some row.recordedAt, bounded := hBounded }) =
        false := by
    simp [HighWater.sameState, same]
  rw [publishHighWater, deliver, accepted]
  simp only [Wire.reliable, confirm, hRow, ok_bind, refuseIf_of_not hSame, hVisible, orRefuse_some]

/-- What one more record becomes: an accepted checkpoint, after which the ledger and the newest
anchor agree and no other list of records is accepted. -/
structure Simulated (records : List (Json δ)) (record : Json δ) (rows : List (AnchorRow δ))
    (scope : Json δ) (tx : Transaction) (state : CampaignLedgerState δ) (requested : HighWater δ)
    (row : AnchorRow δ) : Prop where
  read : campaignState (some (records ++ [record])) (contentId scope) scope = .ok state
  built : campaignHighWater state = .ok requested
  accepted : publishAnchor tx requested.toCheckpoint rows = .ok ([row], rows ++ [row])
  same : row.toCheckpoint = requested.toCheckpoint
  published : Published (records ++ [record]) (rows ++ [row])
  stored : publishDatabaseHighWater .reliable tx (some (records ++ [record])) (contentId scope) scope
    rows = (.ok state, rows ++ [row])
  required : ∀ (c : δ) (anyScope : Json δ) (anyState : CampaignLedgerState δ),
    campaignState (some (records ++ [record])) c anyScope = .ok anyState →
      requireDatabaseHighWater true (rows ++ [row]) anyState = .ok ()
  again : ∀ tx' : Transaction, publishAnchor tx' requested.toCheckpoint (rows ++ [row]) =
    .ok ([row], rows ++ [row])
  refused : ∀ (other : LedgerFile δ) (c : δ) (anyScope : Json δ) (anyState : CampaignLedgerState δ),
    other.lines ≠ records ++ [record] → campaignState other c anyScope = .ok anyState →
      requireDatabaseHighWater true (rows ++ [row]) anyState = .error (.acquisitionRefused
        "local acquisition ledger does not match the database high-water checkpoint")

theorem Published.simulated (free : CollisionFree δ) (published : Published records rows)
    (hScan : validateRecords records = .ok scan) (hStep : validateRecord scan record = .ok scan')
    {scope : Json δ} (named : record.field "campaign_id" = hash (contentId scope)) (tx : Transaction) :
    ∃ state requested row, Simulated records record rows scope tx state requested row := by
  have anchored := published.anchored free hScan
  have hNext : validateRecords (records ++ [record]) = .ok scan' := by
    rw [validateRecords_append, hScan, ok_bind, hStep]
  have d := describes_of_validateRecords hScan
  have d' := describes_of_validateRecords hNext
  obtain ⟨campaignId, base, move⟩ := d.move hStep
  obtain rfl : contentId scope = campaignId := hash_inj.mp (named.symm.trans move.named)
  obtain ⟨state, hState, view⟩ :=
    campaignState_of_validate (some (records ++ [record])) free hNext scope
  obtain ⟨requested, hRequested, hCheckpoint⟩ := d'.campaignHighWater view move.moved.base
  have hAccepted := anchored.publishes free move d d' tx
  have anchored' := anchored.step move d' tx
  have hAgain := anchored.republishes move d' tx
  have hLatest := anchored.latest_append
    ((checkpointOf (records ++ [record]) scan' (contentId scope) base).row tx)
    length_lt_checkpointNumber
  rw [← hCheckpoint] at hAccepted anchored' hAgain hLatest
  refine ⟨state, requested, requested.toCheckpoint.row tx, ?_⟩
  constructor
  case read => exact hState
  case built => exact hRequested
  case accepted => exact hAccepted
  case same => rfl
  case published => exact published.publish tx hState hRequested hAccepted
  case stored =>
    obtain ⟨visible, hVisible, hSame⟩ := publishHighWater_reliable hAccepted rfl hLatest
    rw [publishDatabaseHighWater, hState, ok_bind, hRequested, ok_bind]
    simp [publishRequested, hVisible, HighWater.sameState, hSame]
  case required =>
    intro c anyScope anyState hAny
    obtain ⟨-, anyScan, -, anyView⟩ := stateOf_of_campaignState free hAny
    exact anchored'.requires free anyView.globalRecordCount anyView.globalLedgerSha256
  case again => exact hAgain
  case refused =>
    intro other c anyScope anyState hOther hAny
    obtain ⟨-, anyScan, -, anyView⟩ := stateOf_of_campaignState free hAny
    exact anchored'.refuses free anyView.globalRecordCount anyView.globalLedgerSha256 hOther

/-- Every ledger the validator accepts can be published, prefix by prefix. -/
theorem exists_published (free : CollisionFree δ) (tx : Transaction)
    (h : validateRecords records = .ok scan) : ∃ rows, Published records rows := by
  induction records using List.reverseRecOn generalizing scan with
  | nil => exact ⟨[], .empty⟩
  | append_singleton records record ih =>
    obtain ⟨prior, hPrior, hStep⟩ := validateRecords_append_singleton h
    obtain ⟨rows, published⟩ := ih hPrior
    obtain ⟨scope, named⟩ := (describes_of_validateRecords h).campaign_named
      (r := record) (by simp)
    obtain ⟨state, requested, row, simulated⟩ := published.simulated free hPrior hStep named tx
    exact ⟨_, simulated.published⟩

theorem readable_of_run (free : CollisionFree δ) {calendar : SessionCalendar} {j : Journal δ}
    (run : ReflTransGen (JournalStep calendar) Journal.absent j) : Readable j.file :=
  invariant_of_run (readable_step free) run (show Readable Journal.absent.file from readable_absent)

end StockApi.Acquisition

import StockApi.Library.Relational
import StockApi.Acquisition.Ledger

/-!
# Database anchors of the ledger

The table `vendor_acquisition_campaign_anchors` with its publishing function, the store that
calls it, and the comparison of a ledger with the newest anchor. A digest column holds a
digest, so the format checks on it are the column's type.
-/

namespace StockApi.Acquisition

open Checked CivilTime Relational

variable {δ : Type}

/-! ## Checkpoints -/

structure Checkpoint (δ : Type) where
  checkpointNumber : Int
  ledgerSha256 : δ
  campaignId : δ
  campaignCheckpointNumber : Int
  campaignLedgerSha256 : δ
  baseCalls : Int
  authorizedCalls : Int
  reservedCalls : Int
deriving DecidableEq

/-- The counter bounds of `VendorAcquisitionCampaignHighWater.__post_init__`. -/
structure Checkpoint.Bounded (c : Checkpoint δ) : Prop where
  checkpoint : 1 ≤ c.checkpointNumber
  campaignCheckpoint : 1 ≤ c.campaignCheckpointNumber ∧
    c.campaignCheckpointNumber ≤ c.checkpointNumber
  base : 1 ≤ c.baseCalls ∧ c.baseCalls ≤ 259
  authorized : c.baseCalls ≤ c.authorizedCalls ∧ c.authorizedCalls ≤ min (c.baseCalls + 5) 264
  reserved : 0 ≤ c.reservedCalls ∧ c.reservedCalls ≤ c.authorizedCalls

theorem Checkpoint.bounded_iff {c : Checkpoint δ} :
    c.Bounded ↔ 1 ≤ c.checkpointNumber ∧
      (1 ≤ c.campaignCheckpointNumber ∧ c.campaignCheckpointNumber ≤ c.checkpointNumber) ∧
      (1 ≤ c.baseCalls ∧ c.baseCalls ≤ 259) ∧
      (c.baseCalls ≤ c.authorizedCalls ∧ c.authorizedCalls ≤ min (c.baseCalls + 5) 264) ∧
      (0 ≤ c.reservedCalls ∧ c.reservedCalls ≤ c.authorizedCalls) :=
  ⟨fun ⟨h, hCampaign, hBase, hAuthorized, hReserved⟩ => ⟨h, hCampaign, hBase, hAuthorized, hReserved⟩,
    fun ⟨h, hCampaign, hBase, hAuthorized, hReserved⟩ => ⟨h, hCampaign, hBase, hAuthorized, hReserved⟩⟩

instance (c : Checkpoint δ) : Decidable c.Bounded := decidable_of_iff _ Checkpoint.bounded_iff.symm

/-- `VendorAcquisitionCampaignHighWater`; a reading of the clock always has a zone. -/
structure HighWater (δ : Type) extends Checkpoint δ where
  recordedAt : Option Instant
  bounded : toCheckpoint.Bounded

def HighWater.construct (c : Checkpoint δ) (recordedAt : Option Instant) :
    Except Raised (HighWater δ) :=
  if h : c.Bounded then .ok { c with recordedAt, bounded := h }
  else .error (.valueError "campaign high-water counters are outside the supported bounds")

theorem HighWater.construct_eq_ok {c : Checkpoint δ} (h : c.Bounded) (recordedAt : Option Instant) :
    HighWater.construct c recordedAt = .ok { c with recordedAt, bounded := h } := dif_pos h

def HighWater.sameState [DecidableEq δ] (a : HighWater δ) (b : Option (HighWater δ)) : Bool :=
  match b with
  | some b => decide (a.toCheckpoint = b.toCheckpoint)
  | none => false

/-! ## The table -/

structure AnchorRow (δ : Type) extends Checkpoint δ where
  schemaVersion : Int
  recordedAt : Instant
  creatorXid : Int

/-- What the database supplies to one call: the clock and the transaction id. -/
structure Transaction where
  clock : Instant
  txid : Int
  positive : 0 < txid

/-- The check constraints of the table. -/
def AnchorRow.Checks (row : AnchorRow δ) : Prop :=
  row.schemaVersion = 1 ∧ row.checkpointNumber > 0 ∧
  (1 ≤ row.campaignCheckpointNumber ∧ row.campaignCheckpointNumber ≤ row.checkpointNumber) ∧
  (1 ≤ row.baseCalls ∧ row.baseCalls ≤ 259) ∧
  (row.baseCalls ≤ row.authorizedCalls ∧ row.authorizedCalls ≤ min (row.baseCalls + 5) 264) ∧
  (0 ≤ row.reservedCalls ∧ row.reservedCalls ≤ row.authorizedCalls) ∧
  row.creatorXid > 0

instance (row : AnchorRow δ) : Decidable row.Checks := inferInstanceAs (Decidable (_ ∧ _))

/-- The primary key and the three unique constraints, of a new row against the others. -/
def AnchorRow.Unique (row : AnchorRow δ) (rows : List (AnchorRow δ)) : Prop :=
  ∀ other ∈ rows,
    other.checkpointNumber ≠ row.checkpointNumber ∧
    other.ledgerSha256 ≠ row.ledgerSha256 ∧
    ¬ (other.campaignId = row.campaignId ∧
      other.campaignCheckpointNumber = row.campaignCheckpointNumber) ∧
    ¬ (other.campaignId = row.campaignId ∧
      other.campaignLedgerSha256 = row.campaignLedgerSha256)

def latestAnchor (rows : List (AnchorRow δ)) : Option (AnchorRow δ) :=
  latestBy (·.checkpointNumber) rows

/-! ## The publishing function -/

/-- The arguments that are refused before the table is read. -/
def AnchorInvalid (requested : Checkpoint δ) : Prop :=
  requested.checkpointNumber < 1 ∨
  ¬ (1 ≤ requested.campaignCheckpointNumber ∧
    requested.campaignCheckpointNumber ≤ requested.checkpointNumber) ∨
  ¬ (1 ≤ requested.baseCalls ∧ requested.baseCalls ≤ 259) ∨
  ¬ (requested.baseCalls ≤ requested.authorizedCalls ∧
    requested.authorizedCalls ≤ min (requested.baseCalls + 5) 264) ∨
  ¬ (0 ≤ requested.reservedCalls ∧ requested.reservedCalls ≤ requested.authorizedCalls)

instance (requested : Checkpoint δ) : Decidable (AnchorInvalid requested) :=
  inferInstanceAs (Decidable (_ ∨ _))

def DoesNotExtendGlobal (requested : Checkpoint δ) : Option (AnchorRow δ) → Prop
  | none => requested.checkpointNumber ≠ 1
  | some prior => requested.checkpointNumber ≠ prior.checkpointNumber + 1 ∨
      requested.ledgerSha256 = prior.ledgerSha256

def NotCanonicalStart (requested : Checkpoint δ) : Prop :=
  requested.campaignCheckpointNumber ≠ 1 ∨ requested.authorizedCalls ≠ requested.baseCalls ∨
    requested.reservedCalls ≠ 0

instance (requested : Checkpoint δ) : Decidable (NotCanonicalStart requested) :=
  inferInstanceAs (Decidable (_ ∨ _))

def DoesNotExtendCampaign (requested : Checkpoint δ) (prior : AnchorRow δ) : Prop :=
  requested.campaignCheckpointNumber ≠ prior.campaignCheckpointNumber + 1 ∨
  requested.campaignLedgerSha256 = prior.campaignLedgerSha256 ∨
  requested.baseCalls ≠ prior.baseCalls ∨
  requested.authorizedCalls < prior.authorizedCalls ∨
  requested.reservedCalls < prior.reservedCalls ∨
  ¬ ((requested.authorizedCalls > prior.authorizedCalls ∧
      requested.reservedCalls = prior.reservedCalls) ∨
    (requested.authorizedCalls = prior.authorizedCalls ∧
      requested.reservedCalls = prior.reservedCalls + 1) ∨
    (requested.authorizedCalls = prior.authorizedCalls ∧
      requested.reservedCalls = prior.reservedCalls))

variable [DecidableEq δ]

instance (requested : Checkpoint δ) : ∀ prior, Decidable (DoesNotExtendGlobal requested prior)
  | none => inferInstanceAs (Decidable (_ ≠ _))
  | some _ => inferInstanceAs (Decidable (_ ∨ _))

instance (requested : Checkpoint δ) (prior : AnchorRow δ) :
    Decidable (DoesNotExtendCampaign requested prior) :=
  inferInstanceAs (Decidable (_ ∨ _))

instance (row : AnchorRow δ) (rows : List (AnchorRow δ)) : Decidable (row.Unique rows) :=
  inferInstanceAs (Decidable (∀ other ∈ rows, _))

def insertAnchor (row : AnchorRow δ) (rows : List (AnchorRow δ)) :
    Except SqlError (List (AnchorRow δ)) := do
  refuseIf (¬ row.Checks) (SqlError.mk "23514" "new row violates check constraint")
  refuseIf (¬ row.Unique rows)
    (SqlError.mk "23505" "duplicate key value violates unique constraint")
  return rows ++ [row]

def latestCampaignAnchor (rows : List (AnchorRow δ)) (campaignId : δ) : Option (AnchorRow δ) :=
  latestBy (·.campaignCheckpointNumber) (rows.filter fun row => decide (row.campaignId = campaignId))

def refuseCampaign (requested : Checkpoint δ) : Option (AnchorRow δ) → Except SqlError Unit
  | none => refuseIf (NotCanonicalStart requested)
      ⟨"55000", "initial campaign checkpoint is not canonical"⟩
  | some prior => refuseIf (DoesNotExtendCampaign requested prior)
      ⟨"55000", "campaign checkpoint does not extend its high-water state"⟩

/-- The part of the function that appends a row. -/
def extendAnchors (tx : Transaction) (requested : Checkpoint δ) (rows : List (AnchorRow δ)) :
    Except SqlError (List (AnchorRow δ) × List (AnchorRow δ)) := do
  refuseIf (DoesNotExtendGlobal requested (latestAnchor rows))
    (SqlError.mk "55000" "ledger checkpoint does not extend the global high-water state")
  refuseCampaign requested (latestCampaignAnchor rows requested.campaignId)
  let inserted ← insertAnchor
    { requested with schemaVersion := 1, recordedAt := tx.clock, creatorXid := tx.txid } rows
  return (inserted.filter fun row => decide (row.checkpointNumber = requested.checkpointNumber),
    inserted)

/-- `publish_vendor_acquisition_campaign_anchor`: the rows it returns and the table after it. -/
def publishAnchor (tx : Transaction) (requested : Checkpoint δ) (rows : List (AnchorRow δ)) :
    Except SqlError (List (AnchorRow δ) × List (AnchorRow δ)) :=
  if AnchorInvalid requested then
    .error ⟨"22023", "vendor-acquisition ledger anchor is invalid"⟩
  else
    match latestAnchor rows with
    | none => extendAnchors tx requested rows
    | some prior =>
      if requested.checkpointNumber ≤ prior.checkpointNumber then
        if requested = prior.toCheckpoint then .ok ([prior], rows)
        else .error ⟨"55000", "historical campaign checkpoint cannot be replayed"⟩
      else extendAnchors tx requested rows

/-! ## The store -/

/-- `_from_values`. -/
def fromValues (row : AnchorRow δ) : Except Raised (HighWater δ) :=
  HighWater.construct row.toCheckpoint (some row.recordedAt)

/-- `SqlVendorAcquisitionCampaignStore.latest`; a connection that fails is `false`. -/
def latestHighWater (readable : Bool) (rows : List (AnchorRow δ)) :
    Except Raised (Option (HighWater δ)) :=
  if readable = false then .error (.storeOutcomeUnknown "campaign checkpoint visibility is unknown")
  else
    match latestAnchor rows with
    | none => .ok none
    | some row => (fromValues row).map some

/-- What becomes of the statement that calls the publishing function. -/
inductive Delivery where
  | answered
  | lostAfterCommit (sqlstate : Option String)
  | failed (sqlstate : Option String)

/-- The connection during one `publish`: its statement, and the reading after it. -/
structure Wire where
  delivery : Delivery
  readable : Bool

def Wire.reliable : Wire := ⟨.answered, true⟩

def deterministicRejections : List String := ["22023", "23502", "23505", "55000"]

inductive Reply (δ : Type) where
  | row (returned : AnchorRow δ)
  | notOneRow
  | driverError (sqlstate : Option String)

/-- The reply to the statement and the table it leaves. -/
def deliver (wire : Wire) (tx : Transaction) (requested : Checkpoint δ)
    (rows : List (AnchorRow δ)) : Reply δ × List (AnchorRow δ) :=
  match wire.delivery, publishAnchor tx requested rows with
  | .failed sqlstate, _ => (.driverError sqlstate, rows)
  | _, .error e => (.driverError (some e.sqlstate), rows)
  | .lostAfterCommit sqlstate, .ok (_, rows') => (.driverError sqlstate, rows')
  | .answered, .ok ([returned], rows') => (.row returned, rows')
  | .answered, .ok (_, _) => (.notOneRow, rows)

/-- The reading that decides what a failed statement has done. -/
def reconcile (readable : Bool) (requested : HighWater δ) (sqlstate : Option String)
    (rows : List (AnchorRow δ)) : Except Raised (HighWater δ) := do
  let visible ← latestHighWater readable rows
  if requested.sameState visible then
    orRefuse visible (.storeOutcomeUnknown "campaign checkpoint visibility is unknown")
  else if sqlstate.any (deterministicRejections.contains ·) then
    .error (.storeConflict "campaign checkpoint conflicts with database high-water state")
  else .error (.storeOutcomeUnknown "campaign checkpoint visibility is unknown")

/-- The reading that confirms an answered statement. -/
def confirm (readable : Bool) (requested : HighWater δ) (returned : AnchorRow δ)
    (rows : List (AnchorRow δ)) : Except Raised (HighWater δ) := do
  let published ← fromValues returned
  refuseIf (requested.sameState (some published) = false)
    (Raised.storeConflict "database returned a different campaign checkpoint")
  let visible ← latestHighWater readable rows
  refuseIf (requested.sameState visible = false)
    (Raised.storeOutcomeUnknown "campaign checkpoint is not the visible database high-water state")
  orRefuse visible
    (.storeOutcomeUnknown "campaign checkpoint is not the visible database high-water state")

/-- `SqlVendorAcquisitionCampaignStore.publish`. -/
def publishHighWater (wire : Wire) (tx : Transaction) (requested : HighWater δ)
    (rows : List (AnchorRow δ)) : Except Raised (HighWater δ) × List (AnchorRow δ) :=
  match deliver wire tx requested.toCheckpoint rows with
  | (.driverError sqlstate, rows') => (reconcile wire.readable requested sqlstate rows', rows')
  | (.notOneRow, rows') => (.error .invalidRequest, rows')
  | (.row returned, rows') => (confirm wire.readable requested returned rows', rows')

/-! ## The ledger against the newest anchor -/

variable [ContentHash δ]

/-- `_campaign_high_water`. -/
def campaignHighWater (state : CampaignLedgerState δ) : Except Raised (HighWater δ) :=
  match state.baseCalls with
  | none => .error (.acquisitionRefused "campaign ledger has no publishable high-water checkpoint")
  | some baseCalls =>
    if state.recordCount < 1 ∨ state.globalRecordCount < 1 then
      .error (.acquisitionRefused "campaign ledger has no publishable high-water checkpoint")
    else
      HighWater.construct {
        checkpointNumber := state.globalRecordCount
        ledgerSha256 := state.globalLedgerSha256
        campaignId := state.campaignId
        campaignCheckpointNumber := state.recordCount
        campaignLedgerSha256 := state.ledgerSha256
        baseCalls
        authorizedCalls := state.authorizedCalls
        reservedCalls := state.reservedCalls } none

/-- Exact equality of the file and the newest anchor. -/
def matchesHighWater (state : CampaignLedgerState δ) (visible : Option (HighWater δ)) : Bool :=
  if state.globalRecordCount = 0 then visible.isNone
  else visible.any fun v => decide (v.checkpointNumber = (state.globalRecordCount : Int) ∧
    v.ledgerSha256 = state.globalLedgerSha256)

/-- How the acquisition reports a reading that failed. -/
def visibleFailure : Raised → Raised
  | .storeOutcomeUnknown _ =>
    .highWaterOutcomeUnknown "database acquisition high-water visibility is unknown"
  | .storeConflict _ => .highWaterConflict "database acquisition high-water is unavailable"
  | e => e

/-- `_require_database_high_water`. -/
def requireDatabaseHighWater (readable : Bool) (rows : List (AnchorRow δ))
    (state : CampaignLedgerState δ) : Except Raised Unit := do
  let visible ← (latestHighWater readable rows).mapError visibleFailure
  refuseIf (matchesHighWater state visible = false)
    (Raised.acquisitionRefused
      "local acquisition ledger does not match the database high-water checkpoint")

/-- How the acquisition reports a publication that failed. -/
def publishFailure : Raised → Raised
  | .storeOutcomeUnknown _ =>
    .highWaterOutcomeUnknown "database acquisition high-water publish visibility is unknown"
  | .storeConflict _ => .highWaterConflict "database acquisition high-water publish conflicted"
  | e => e

/-- The publication of a requested checkpoint, once the ledger has been read. -/
def publishRequested (wire : Wire) (tx : Transaction) (state : CampaignLedgerState δ)
    (requested : HighWater δ) (rows : List (AnchorRow δ)) :
    Except Raised (CampaignLedgerState δ) × List (AnchorRow δ) :=
  match publishHighWater wire tx requested rows with
  | (.error e, rows') => (.error (publishFailure e), rows')
  | (.ok visible, rows') =>
    if requested.sameState (some visible) then (.ok state, rows')
    else (.error (.acquisitionRefused
      "database acquisition high-water publish was not observable"), rows')

/-- `_publish_database_high_water`. -/
def publishDatabaseHighWater (wire : Wire) (tx : Transaction) (file : LedgerFile δ)
    (campaignId : δ) (campaignScope : Json δ) (rows : List (AnchorRow δ)) :
    Except Raised (CampaignLedgerState δ) × List (AnchorRow δ) :=
  match (do
    let state ← campaignState file campaignId campaignScope
    let requested ← campaignHighWater state
    return (state, requested) : Except Raised (CampaignLedgerState δ × HighWater δ)) with
  | .ok (state, requested) => publishRequested wire tx state requested rows
  | .error e => (.error e, rows)

end StockApi.Acquisition

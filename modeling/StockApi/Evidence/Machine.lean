import Mathlib.Logic.Relation
import StockApi.Evidence.Publisher
import StockApi.Library.Mvcc

/-!
# The evidence database

The evidence tables under any number of concurrent transactions. The triggers of a manifest and of
an outcome read the clock and the tables at different moments, so those statements are several steps.
A session stands for the settings and the start of a transaction, a view for the snapshot of a
statement; both are any, which covers every isolation level. Bars and receipts are written by others.
-/

namespace StockApi.Evidence

open Bars Checked Jsonb JsonText Mvcc Relation

/-- How far the statement of a transaction has come. -/
inductive Work (pg : Postgres) where
  | idle
  | manifestStamped (session : pg.Session) (draft : ManifestDraft)
  | manifestValidated (session : pg.Session) (draft : ManifestDraft)
  | materializing (session : pg.Session) (manifest : ManifestRow pg) (remaining : List Value)
  | publisherCalled (session : pg.Session) (call : PublishCall)
  | outcomeStamped (session : pg.Session) (call : PublishCall) (draft : OutcomeDraft)
  | outcomeStored (session : pg.Session) (call : PublishCall) (outcome : OutcomeRow pg)

structure State (pg : Postgres) where
  clock : Int
  fates : Nat → Fate
  work : Nat → Work pg
  outcomePolicies : Table (OutcomePolicyRow pg)
  selectionPolicies : Table (SelectionPolicyRow pg)
  snapshots : Table SnapshotRow
  runs : Table (RunRow pg)
  manifests : Table (ManifestRow pg)
  members : Table MemberRow
  seals : Table SealRow
  outcomes : Table (OutcomeRow pg)
  publications : Table PublicationRow
  bars : BarTables

variable {pg : Postgres}

def State.initial (pg : Postgres) (clock : Int) : State pg where
  clock
  fates _ := .fresh
  work _ := .idle
  outcomePolicies := []
  selectionPolicies := []
  snapshots := []
  runs := []
  manifests := []
  members := []
  seals := []
  outcomes := []
  publications := []
  bars := ⟨[], [], []⟩

def State.setWork (s : State pg) (x : Nat) (work : Work pg) : State pg :=
  { s with work := Function.update s.work x work }

/-- The tables of the provenance query as one statement sees them. -/
def State.evidence (s : State pg) (x : Nat) (view : View) : EvidenceTables pg :=
  ⟨visible x view s.manifests, visible x view s.seals, visible x view s.members,
    visible x view s.runs, visible x view s.snapshots⟩

/-! ## Unique indexes and exclusion constraints -/

def OutcomePolicyRow.Conflicts (a b : OutcomePolicyRow pg) : Prop := a.policyHash = b.policyHash

def SelectionPolicyRow.Conflicts (a b : SelectionPolicyRow pg) : Prop := a.policyHash = b.policyHash

def SnapshotRow.Conflicts (a b : SnapshotRow) : Prop := a.snapshotId = b.snapshotId

/-- The key, the token digest of an `api` run and the opportunity of a scheduled one. -/
def RunRow.Conflicts (a b : RunRow pg) : Prop :=
  a.forecastId = b.forecastId ∨
  (a.idempotencyTokenDigest.isSome = true ∧ a.idempotencyTokenDigest = b.idempotencyTokenDigest) ∨
  (a.originKind = .scheduledEvaluation ∧ b.originKind = .scheduledEvaluation ∧
    a.opportunityHash = b.opportunityHash)

def ManifestRow.Conflicts (a b : ManifestRow pg) : Prop := a.cohortId = b.cohortId

/-- The key, the two unique constraints and the exclusion across purposes. -/
def MemberRow.Conflicts (a b : MemberRow) : Prop :=
  (a.cohortId = b.cohortId ∧ a.forecastId = b.forecastId ∧ a.step = b.step) ∨
  (a.cohortId = b.cohortId ∧ a.opportunityHash = b.opportunityHash ∧ a.step = b.step) ∨
  (a.selectionPolicyHash = b.selectionPolicyHash ∧ a.opportunityHash = b.opportunityHash ∧
    a.step = b.step) ∨
  (a.selectionPolicyHash = b.selectionPolicyHash ∧ a.opportunityHash = b.opportunityHash ∧
    a.purpose ≠ b.purpose)

def SealRow.Conflicts (a b : SealRow) : Prop := a.cohortId = b.cohortId

/-- The key and the semantic key. -/
def OutcomeRow.Conflicts (a b : OutcomeRow pg) : Prop :=
  a.outcomeId = b.outcomeId ∨
  (a.outcomeResolutionPolicyHash = b.outcomeResolutionPolicyHash ∧
    a.availabilityRuleSetHash = b.availabilityRuleSetHash ∧ a.symbol = b.symbol ∧
    a.target = b.target ∧ a.seriesBasis = b.seriesBasis ∧ a.targetTime = b.targetTime)

def PublicationRow.Conflicts (a b : PublicationRow) : Prop :=
  a.outcomeId = b.outcomeId ∧ a.cohortId = b.cohortId ∧ a.forecastId = b.forecastId ∧
    a.step = b.step

/-! ## Steps -/

/-- A run as a writer proposes it, stamped. -/
def RunColumns.stamp (c : RunColumns) (clock : Int) : RunColumns := { c with recordedAt := clock }

/-- A manifest's registered policies, as its foreign keys look them up. -/
def Registered (row : ManifestRow pg) (outcomes : List (OutcomePolicyRow pg))
    (selections : List (SelectionPolicyRow pg)) : Prop :=
  (∃ p ∈ outcomes, p.policyHash = row.outcomeResolutionPolicyHash ∧
    p.availabilityRuleSetHash = row.availabilityRuleSetHash) ∧
  ∃ p ∈ selections, p.policyHash = row.selectionPolicyHash ∧
    p.outcomeResolutionPolicyHash = row.outcomeResolutionPolicyHash ∧
    p.outcomeAvailabilityRuleSetHash = row.availabilityRuleSetHash

/-- The publication of a call. -/
def publicationOf (call : PublishCall) (outcome : OutcomeRow pg) (clock : Int) (x : Nat) : PublicationRow :=
  ⟨outcome.outcomeId, call.cohortId, call.forecastId, call.step, clock, x⟩

inductive Step : State pg → State pg → Prop
  | begin {s : State pg} {x : Nat} (positive : 0 < x) (fresh : s.fates x = .fresh) :
      Step s { s with fates := Function.update s.fates x .active }
  | tick {s : State pg} {t : Int} (later : s.clock ≤ t) : Step s { s with clock := t }
  | commit {s : State pg} {x : Nat} (active : s.fates x = .active) (idle : s.work x = .idle) :
      Step s { s with fates := Function.update s.fates x .committed }
  | abort {s : State pg} {x : Nat} (active : s.fates x = .active) :
      Step s { s.setWork x .idle with fates := Function.update s.fates x .aborted }
  | writeBars {s : State pg} (tables : BarTables) : Step s { s with bars := tables }
  | registerOutcomePolicy {s : State pg} {x : Nat} (active : s.fates x = .active)
      (idle : s.work x = .idle) (row : OutcomePolicyRow pg)
      (free : Free OutcomePolicyRow.Conflicts s.fates s.outcomePolicies row) :
      Step s { s with outcomePolicies := s.outcomePolicies ++ [⟨x, row⟩] }
  | registerSelectionPolicy {s : State pg} {x : Nat} (active : s.fates x = .active)
      (idle : s.work x = .idle) {view : View} (of : view.Of s.fates) {bytes : Bytes}
      {columns : SelectionPolicyColumns} {row : SelectionPolicyRow pg}
      (stamped : stampForecastSelectionPolicy (visible x view s.outcomePolicies) s.clock x bytes =
        .ok columns) (checked : columns.toRow = .ok row)
      (free : Free SelectionPolicyRow.Conflicts s.fates s.selectionPolicies row) :
      Step s { s with selectionPolicies := s.selectionPolicies ++ [⟨x, row⟩] }
  | insertSnapshot {s : State pg} {x : Nat} (active : s.fates x = .active) (idle : s.work x = .idle)
      (row : SnapshotRow) (free : Free SnapshotRow.Conflicts s.fates s.snapshots row) :
      Step s { s with snapshots := s.snapshots ++ [⟨x, row⟩] }
  | insertRun {s : State pg} {x : Nat} (active : s.fates x = .active) (idle : s.work x = .idle)
      {view : View} (of : view.Of s.fates) {columns : RunColumns}
      (checks : (columns.stamp s.clock).Checks pg)
      (snapshot : ∃ r ∈ visible x view s.snapshots, r.snapshotId = columns.snapshotId)
      (free : Free RunRow.Conflicts s.fates s.runs ⟨columns.stamp s.clock, checks⟩) :
      Step s { s with runs := s.runs ++ [⟨x, ⟨columns.stamp s.clock, checks⟩⟩] }
  | stampManifest {s : State pg} {x : Nat} (active : s.fates x = .active) (idle : s.work x = .idle)
      {session : pg.Session} {cohortId : String} {bytes : Bytes} {draft : ManifestDraft}
      (stamped : stampForecastOutcomeCohortManifest session s.clock x cohortId bytes = .ok draft) :
      Step s (s.setWork x (.manifestStamped session draft))
  | validateManifest {s : State pg} {x : Nat} (active : s.fates x = .active) {session : pg.Session}
      {draft : ManifestDraft} (work : s.work x = .manifestStamped session draft)
      {policyView runView : View} (ofPolicies : policyView.Of s.fates) (ofRuns : runView.Of s.fates)
      (validated : validateForecastCohortSelectionPolicy session
        (visible x policyView s.selectionPolicies) (visible x runView s.runs)
        (visible x runView s.snapshots) draft = .ok ⟨⟩) :
      Step s (s.setWork x (.manifestValidated session draft))
  | insertManifest {s : State pg} {x : Nat} (active : s.fates x = .active) {session : pg.Session}
      {draft : ManifestDraft} (work : s.work x = .manifestValidated session draft)
      {row : ManifestRow pg} (checked : draft.toRow = .ok row)
      (free : Free ManifestRow.Conflicts s.fates s.manifests row) {view : View}
      (of : view.Of s.fates)
      (registered : Registered row (visible x view s.outcomePolicies)
        (visible x view s.selectionPolicies)) {documents : List Value}
      (read : arrayElements (get (Jsonb.read row.canonicalManifest) "members") = .ok documents) :
      Step s { s.setWork x (.materializing session row documents) with
        manifests := s.manifests ++ [⟨x, row⟩] }
  | insertMember {s : State pg} {x : Nat} (active : s.fates x = .active) {session : pg.Session}
      {manifest : ManifestRow pg} {document : Value} {remaining : List Value}
      (work : s.work x = .materializing session manifest (document :: remaining))
      {draft : MemberDraft} (proposed : proposeMember session manifest document = .ok draft)
      {view : View} (of : view.Of s.fates)
      (validated : validateForecastOutcomeCohortMember session x (visible x view s.manifests)
        (visible x view s.runs) draft = .ok ⟨⟩) {row : MemberRow} (checked : draft.toRow = .ok row)
      (free : Free MemberRow.Conflicts s.fates s.members row) :
      Step s { s.setWork x (.materializing session manifest remaining) with
        members := s.members ++ [⟨x, row⟩] }
  | finishManifest {s : State pg} {x : Nat} (active : s.fates x = .active) {session : pg.Session}
      {manifest : ManifestRow pg} (work : s.work x = .materializing session manifest []) :
      Step s (s.setWork x .idle)
  | sealCohort {s : State pg} {x : Nat} (active : s.fates x = .active) (idle : s.work x = .idle)
      {view : View} (of : view.Of s.fates) {cohortId : String} {columns : SealColumns} {row : SealRow}
      (stamped : stampForecastOutcomeCohortAvailability (visible x view s.manifests)
        (visible x view s.members) s.clock x cohortId = .ok columns)
      (checked : columns.toRow = .ok row) (free : Free SealRow.Conflicts s.fates s.seals row) :
      Step s { s with seals := s.seals ++ [⟨x, row⟩] }
  | callPublisher {s : State pg} {x : Nat} (active : s.fates x = .active) (idle : s.work x = .idle)
      (session : pg.Session) {call : PublishCall} (checked : checkPublishCall true call = .ok ⟨⟩) :
      Step s (s.setWork x (.publisherCalled session call))
  | stampOutcome {s : State pg} {x : Nat} (active : s.fates x = .active) {session : pg.Session}
      {call : PublishCall} (work : s.work x = .publisherCalled session call) {draft : OutcomeDraft}
      (stamped : stampForecastRealizedOutcome session s.bars s.clock call.outcomeId call.evidence =
        .ok draft) :
      Step s (s.setWork x (.outcomeStamped session call draft))
  | storeOutcome {s : State pg} {x : Nat} (active : s.fates x = .active) {session : pg.Session}
      {call : PublishCall} {draft : OutcomeDraft}
      (work : s.work x = .outcomeStamped session call draft) {view : View} (of : view.Of s.fates)
      (validated : validateForecastRealizedOutcomePolicy true true (visible x view s.outcomePolicies)
        s.bars s.clock draft = .ok ⟨⟩) {row : OutcomeRow pg} (checked : draft.toRow = .ok row)
      (free : Free OutcomeRow.Conflicts s.fates s.outcomes row) :
      Step s { s.setWork x (.outcomeStored session call row) with
        outcomes := s.outcomes ++ [⟨x, row⟩] }
  | keepOutcome {s : State pg} {x : Nat} (active : s.fates x = .active) {session : pg.Session}
      {call : PublishCall} {draft : OutcomeDraft}
      (work : s.work x = .outcomeStamped session call draft) {view : View} (of : view.Of s.fates)
      (validated : validateForecastRealizedOutcomePolicy true true (visible x view s.outcomePolicies)
        s.bars s.clock draft = .ok ⟨⟩) {row stored : OutcomeRow pg} (checked : draft.toRow = .ok row)
      (found : stored ∈ visible x view s.outcomes) (same : stored.outcomeId = row.outcomeId)
      (bytes : stored.canonicalEvidence = call.evidence) :
      Step s (s.setWork x (.outcomeStored session call stored))
  | publish {s : State pg} {x : Nat} (active : s.fates x = .active) {session : pg.Session}
      {call : PublishCall} {outcome : OutcomeRow pg}
      (work : s.work x = .outcomeStored session call outcome) {view : View} (of : view.Of s.fates)
      {p : Provenance pg} (backed : checkProvenance session (s.evidence x view) call outcome = .ok p)
      (free : Free PublicationRow.Conflicts s.fates s.publications
        (publicationOf call outcome s.clock x)) :
      Step s { s.setWork x .idle with
        publications := s.publications ++ [⟨x, publicationOf call outcome s.clock x⟩] }
  | alreadyPublished {s : State pg} {x : Nat} (active : s.fates x = .active) {session : pg.Session}
      {call : PublishCall} {outcome : OutcomeRow pg}
      (work : s.work x = .outcomeStored session call outcome) {view : View} (of : view.Of s.fates)
      {p : Provenance pg} (backed : checkProvenance session (s.evidence x view) call outcome = .ok p)
      (found : ∃ r ∈ visible x view s.publications,
        r.Conflicts (publicationOf call outcome s.clock x)) :
      Step s (s.setWork x .idle)

/-- A state that the database can be in. -/
def Reachable (s : State pg) : Prop := ∃ clock, ReflTransGen Step (State.initial pg clock) s

end StockApi.Evidence

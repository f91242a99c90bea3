import StockApi.Snapshots.Assembled
import StockApi.Snapshots.Rebuild

/-!
# What a sealed snapshot says

The observations of a snapshot are the newest versions that were visible at its cutoff, on consecutive
sessions up to the latest completed one, and its targets are the closes of the sessions that follow.
-/

namespace StockApi.Snapshots.Builder

open Checked CivilTime SessionCalendar Documents Relational Relation
open Bars (Archive Archived SnapshotBuildSpec SpecArgument)

/-- An observation is the newest version of its bar that is visible at the cutoff. -/
def ObservedIn (a : Archive) (policy : ForecastSnapshotBuildPolicy) (spec : SnapshotBuildSpec)
    (o : SnapshotObservation Instant) : Prop :=
  ∃ row : Bars.Visible Bars.CloseVersion,
    policy.toForecastSnapshotBuildPolicy.InSeries spec.symbol row.version.key ∧
    a.newestRow Bars.closeVersion row.version.key spec.asOf.micros = some row ∧
    row.version.key.ts = o.observedAt.micros ∧ row.availableAt = o.availableAt.micros ∧
    o.value = (Float64.ofValue row.version.close).canonicalZero

/-- The history up to a session, and the closes after it. -/
structure Tells (calendar : Calendar) (a : Archive) (policy : ForecastSnapshotBuildPolicy)
    (spec : SnapshotBuildSpec) (q : ForecastInputSnapshotPayload Instant) (last : Nat) : Prop where
  inside : last < calendar.sessions.length
  /-- The session is the latest that closed by the cutoff. -/
  closed : ∀ j (hj : j < calendar.sessions.length), calendar.sessions[j].close ≤ spec.asOf ↔ j ≤ last
  consecutive : (q.observations.map fun o => o.observedAt.date) =
    ((calendar.sessions.take (last + 1)).map Session.label).drop (last + 1 - q.observations.length)
  enough : policy.minimumObservations ≤ q.observations.length ∧ q.observations.length ≤ last
  observed : ∀ o ∈ q.observations, ObservedIn a policy spec o
  /-- No session is observed before it closes or after the cutoff. -/
  timely : ∀ o ∈ q.observations, ∃ close, calendar.sessionClose o.observedAt.date = .ok close ∧
    o.observedAt ≤ close ∧ close ≤ o.availableAt ∧ o.availableAt ≤ spec.asOf
  targets : q.targetTimes =
    ((calendar.sessions.drop (last + 1)).take policy.targetTimeCount).map Session.close
  counted : q.targetTimes.length = policy.targetTimeCount

section Contents

variable {runtime : BuildRuntime} {policy : ForecastSnapshotBuildPolicy} {spec : SnapshotBuildSpec}

theorem datetime_eq_ok {micros : Int} {t : Instant} (h : datetime micros = .ok t) : micros = t.micros := by
  rw [datetime, orRefuse_eq_ok_iff] at h
  rw [Instant.ofMicros] at h
  split_ifs at h with hRange
  cases h
  exact (Int.toNat_of_nonneg hRange.1).symm

/-- What a row of the statement becomes. -/
theorem pointInTimeBar_eq_ok {row : Bars.Visible Bars.CloseVersion} {bar : PointInTimeBar}
    (h : pointInTimeBar row = .ok bar) : row.version.key.ts = bar.observedAt.micros ∧
      row.availableAt = bar.availableAt.micros ∧ bar.close = Float64.ofValue row.version.close := by
  rw [pointInTimeBar, bind_eq_ok_iff] at h
  obtain ⟨observedAt, hObserved, h⟩ := h
  simp only [bind_eq_ok_iff] at h
  obtain ⟨fetchedAt, -, sourceAsOf, -, recordedAt, -, availableAt, hAvailable, h⟩ := h
  cases h
  exact ⟨datetime_eq_ok hObserved, datetime_eq_ok hAvailable, rfl⟩

theorem observedIn_of_rows {a : Archive} (inv : Archived a) {rows : List PointInTimeBar} {row : PointInTimeBar}
    (hSpec : validateSpec runtime policy (argument spec) = .ok spec)
    (h : pointInTimeRows runtime (argument spec) policy a.tables = .ok rows) (hRow : row ∈ rows) :
    ObservedIn a policy spec ⟨row.observedAt, row.availableAt, row.close.canonicalZero⟩ := by
  rw [pointInTimeRows_of_spec hSpec] at h
  obtain ⟨version, hMem, hBar⟩ := exists_left_of_forall₂ (forall₂_of_mapM h) hRow
  obtain ⟨⟨hSeries, hNewest⟩, -⟩ := inv.mem_limitedBarVersions_iff.mp hMem
  obtain ⟨hObserved, hAvailable, hClose⟩ := pointInTimeBar_eq_ok hBar
  exact ⟨version, hSeries, hNewest, hObserved, hAvailable, congrArg Float64.canonicalZero hClose⟩

/-- The payload of the rows of an archive. -/
theorem tells_of_assembled {a : Archive} (inv : Archived a) {rows : List PointInTimeBar} {checkedAt : Instant}
    {payload : ForecastInputSnapshotPayload Instant} (valid : PolicyValid policy)
    (hSpec : validateSpec runtime policy (argument spec) = .ok spec)
    (hRows : pointInTimeRows runtime (argument spec) policy a.tables = .ok rows)
    (h : assembleVerifiedSnapshotPayload runtime rows (argument spec) checkedAt policy = .ok payload) :
    ∃ calendar last, runtime.calendars policy.calendarName = some calendar ∧
      Tells calendar a policy spec (canonicalValues payload) last := by
  obtain ⟨spec', hSpec', -, calendar, hCalendar, ordered, hOrdered, closes, hCloses, latest, -, rfl⟩ :=
    assembleVerifiedSnapshotPayload_eq_ok_iff.mp h
  obtain rfl : spec' = spec := Except.ok.inj (hSpec'.symm.trans hSpec)
  obtain ⟨last, hLast, ends⟩ := endsAt_of_verifyAndOrderBars hOrdered
  obtain ⟨_, _, -, inside, -⟩ := verifyAndOrderBars_eq_ok_iff.mp hOrdered
  obtain ⟨hCount, hTargets⟩ := (closesAfter_eq_ok_iff calendar inside valid.targets.1).mp hCloses
  have hCompleted : last + 1 = calendar.completed spec'.asOf := 
    completed_unique calendar hLast fun j hj => (ends.closed j hj).trans Nat.lt_succ_iff.symm
  rw [calendarOf, refuseIf_bind_eq_ok_iff, orRefuse_eq_ok_iff] at hCalendar
  have hObservations : (canonicalValues (payloadOf runtime spec' checkedAt policy ordered closes latest)).observations =
      ordered.map fun row => ⟨row.observedAt, row.availableAt, row.close.canonicalZero⟩ := by
    rw [canonicalValues, payloadOf, List.map_map]
    rfl
  have hTimes : (canonicalValues (payloadOf runtime spec' checkedAt policy ordered closes latest)).targetTimes =
      closes := by
    rw [canonicalValues, payloadOf]
  refine ⟨calendar, last, hCalendar.2, ?_⟩
  exact {
    inside := hLast
    closed := ends.closed
    consecutive := by
      rw [hObservations, List.map_map, List.length_map]
      exact ends.consecutive
    enough := by
      rw [hObservations, List.length_map]
      exact ⟨ends.enough, ends.older⟩
    observed := fun o hMem => by
      rw [hObservations] at hMem
      obtain ⟨row, hRow, rfl⟩ := List.mem_map.mp hMem
      exact observedIn_of_rows inv hSpec hRows (ends.supplied row hRow)
    timely := fun o hMem => by
      rw [hObservations] at hMem
      obtain ⟨row, hRow, rfl⟩ := List.mem_map.mp hMem
      obtain ⟨close, hClose, hObserved, hFetched, hSource, hRecorded, hAvailable, hCutoff⟩ := ends.timely row hRow
      exact ⟨close, hClose, hObserved, hFetched.trans (hSource.trans (hRecorded.trans hAvailable)), hCutoff⟩
    targets := by
      rw [hTimes, hTargets, hCompleted]
    counted := by
      rw [hTimes]
      exact ((meets calendar inside valid.targets.1).later closes hCloses).1 }

/-- A stored row has the normal form of the payload that is built again. -/
theorem payload_of_sealed {tables : Bars.BarTables} {row : ForecastInputSnapshot} {checkedAt : Instant}
    (valid : PolicyValid policy) (digest : IsDigest runtime.sha256)
    (h : Sealed runtime policy spec tables row checkedAt) :
    ∃ rows payload, pointInTimeRows runtime (argument spec) policy tables = .ok rows ∧
      assembleVerifiedSnapshotPayload runtime rows (argument spec) checkedAt policy = .ok payload ∧
      checkExistingRecord runtime row = .ok (canonicalValues payload) := by
  obtain ⟨hValid, rows, payload, hRows, hPayload, hBytes⟩ := h
  obtain ⟨q, hRecord, -, -⟩ := validateExistingRecord_eq_ok_iff.mp hValid
  obtain ⟨hParsed, hCanonical, -⟩ := checkExistingRecord_eq_ok hRecord
  have hNormal := (assembled_normalizes valid digest (length_pointInTimeRows hRows) hPayload).1
  obtain ⟨p, hFrom⟩ := normalizes_of_parsed hParsed
  obtain ⟨q', hAgain, -⟩ := canonicalSnapshotPayload_eq_ok_iff.mp hCanonical
  obtain rfl := (hFrom.again_iff.mp hAgain).2
  have hSame := (same_bytes_iff hBytes hCanonical).mp rfl
  rw [normalizedPayload_eq_ok_iff.mpr hNormal, normalizedPayload_eq_ok_iff.mpr hAgain] at hSame
  obtain rfl := Except.ok.inj hSame
  exact ⟨rows, payload, hRows, hPayload, hRecord⟩

/-- Whatever was committed before, a build that returns has a row in the table that tells the history of its
symbol as the tables had it at the cutoff. -/
theorem builds_tell_the_history {start : Int} {d : Database} {arg : SpecArgument} {clock : ClockReadings}
    {result : SnapshotBuildResult} {store : SnapshotStore} (valid : PolicyValid policy)
    (digest : IsDigest runtime.sha256)
    (run : ReflTransGen (Transaction runtime) (Database.empty start) d)
    (built : build runtime policy arg clock d.toSnapshotStore = .ok (result, store)) :
    ∃ spec row q calendar last, validateSpec runtime policy arg = .ok spec ∧
      row ∈ store.snapshots ∧ row.snapshotId = result.snapshotId ∧ checkExistingRecord runtime row = .ok q ∧
      FitsPolicy runtime spec policy q ∧ runtime.calendars policy.calendarName = some calendar ∧
      Tells calendar store.archive policy spec q last := by
  have sound := databaseSound_of_run run
  obtain ⟨spec, row, checkedAt, hSpec, -, hMem, hSealed, hResult, hArchive, -⟩ := build_eq_ok built
  obtain ⟨q, hRecord, hFits, -⟩ := validateExistingRecord_eq_ok_iff.mp hSealed.valid
  obtain ⟨rows, payload, hRows, hPayload, hRead⟩ := payload_of_sealed valid digest hSealed
  obtain rfl : canonicalValues payload = q := Except.ok.inj (hRead.symm.trans hRecord)
  obtain ⟨calendar, last, hCalendar, hTells⟩ :=
    tells_of_assembled sound.archived valid (validateSpec_argument hSpec) hRows hPayload
  exact ⟨spec, row, _, calendar, last, hSpec, hMem, by rw [hResult]; rfl, hRecord, hFits, hCalendar,
    hArchive ▸ hTells⟩

end Contents

theorem builds_tell_the_history_monday : ∃ (row : ForecastInputSnapshot) (q : ForecastInputSnapshotPayload Instant)
    (calendar : Calendar) (last : Nat), checkExistingRecord sampleRuntime row = .ok q ∧
      Tells calendar mondayArchive samplePolicy mondaySpec q last := by
  obtain ⟨row, -, hBuild⟩ := monday_build
  obtain ⟨spec, row', q, calendar, last, hSpec, hMem, -, hRecord, -, -, hTells⟩ :=
    @builds_tell_the_history sampleRuntime samplePolicy _ _ _ _ _ _ samplePolicy_valid isDigest_lengthDigits
      mondayDatabase_run hBuild
  obtain rfl : spec = mondaySpec := Except.ok.inj (hSpec.symm.trans mondaySpec_valid)
  exact ⟨row', q, calendar, last, hRecord, hTells⟩

end StockApi.Snapshots.Builder

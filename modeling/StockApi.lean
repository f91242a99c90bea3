import StockApi.Library.Checked
import StockApi.Library.Digits
import StockApi.Library.CivilTime
import StockApi.Library.Instant
import StockApi.Library.Timestamp
import StockApi.Library.Json
import StockApi.Library.Text
import StockApi.Library.Relational
import StockApi.Library.VersionChain
import StockApi.Library.Dict
import StockApi.Library.Rounding
import StockApi.Library.Numerals
import StockApi.Acquisition.Calls
import StockApi.Acquisition.Campaign
import StockApi.Acquisition.Plan
import StockApi.Acquisition.Ledger
import StockApi.Acquisition.Scan
import StockApi.Acquisition.Describes
import StockApi.Acquisition.Writers
import StockApi.Acquisition.Children
import StockApi.Acquisition.Runs
import StockApi.Acquisition.Anchor
import StockApi.Acquisition.Anchored
import StockApi.Acquisition.Execute
import StockApi.Acquisition.Admissions
import StockApi.Bars.Tables
import StockApi.Bars.History
import StockApi.Bars.Selectors
import StockApi.Bars.PointInTime
import StockApi.Bars.Agreement
import StockApi.Bars.LaterWrites
import StockApi.Bars.Upsert
import StockApi.Bars.Dedupe
import StockApi.Bars.UpsertBatch
import StockApi.Bars.UpsertAgrees
import StockApi.Adjustment.Decimal
import StockApi.Adjustment.Factors
import StockApi.Adjustment.Fold
import StockApi.Adjustment.TotalReturn
import StockApi.Acquisition.Backfill
import StockApi.Acquisition.Lanes
import StockApi.Acquisition.Grants
import StockApi.Acquisition.Windows
import StockApi.Acquisition.Resend
import StockApi.Acquisition.Budget
import StockApi.Acquisition.Guarantees
import StockApi.Library.JsonText
import StockApi.Library.JsonExtension
import StockApi.Library.Documents
import StockApi.Library.Jsonb
import StockApi.Library.JsonbText
import StockApi.Library.Postgres
import StockApi.Library.Mvcc
import StockApi.Evidence.Rows
import StockApi.Evidence.SelectionPolicy
import StockApi.Evidence.CanonicalText
import StockApi.Evidence.PolicyText
import StockApi.Evidence.Cohorts
import StockApi.Evidence.Publisher
import StockApi.Evidence.Machine
import StockApi.Evidence.Separation
import StockApi.Evidence.Purposes
import StockApi.Selection.Policy
import StockApi.Selection.Codec
import StockApi.Selection.Purposes
import StockApi.Selection.Agreement
import StockApi.Selection.Registry
import StockApi.Library.OrderStatistics
import StockApi.Calibration.Conformal
import StockApi.Library.SessionCalendar
import StockApi.Snapshots.Sessions
import StockApi.Library.Float64
import StockApi.Snapshots.History
import StockApi.Library.FixedWindow
import StockApi.Pacing.Guard
import StockApi.Library.Series
import StockApi.Features.Technical
import StockApi.Features.LastValues
import StockApi.Features.Causality
import StockApi.Library.ExpiringCounters
import StockApi.RateLimit.Limiter
import StockApi.RateLimit.Quota
import StockApi.Library.Groups
import StockApi.Snapshots.Payload
import StockApi.Snapshots.Normalization
import StockApi.Snapshots.Records
import StockApi.Snapshots.RoundTrip
import StockApi.Snapshots.Resolve
import StockApi.Library.ProjectedWalk
import StockApi.Calibration.Adaptive
import StockApi.Calibration.Intervals
import StockApi.Library.ScoreInterval
import StockApi.Calibration.Wilson
import StockApi.Library.DecimalNumeral
import StockApi.CorporateActions.DecimalText
import StockApi.Library.FloatValue
import StockApi.Calibration.FittedSet
import StockApi.Calibration.FittedSetCodec
import StockApi.Library.Uuid
import StockApi.Cohorts.Manifest
import StockApi.Cohorts.Codec
import StockApi.Cohorts.Records
import StockApi.Library.FloatRounding
import StockApi.Forecasts.Fields
import StockApi.Forecasts.Schema
import StockApi.Forecasts.Payload
import StockApi.Forecasts.Records
import StockApi.Forecasts.Collections
import StockApi.Forecasts.Archive
import StockApi.Forecasts.Runs
import StockApi.Forecasts.Rearrangement
import StockApi.Forecasts.Opportunity
import StockApi.Features.Indicators
import StockApi.Selection.Size
import StockApi.Selection.Separation
import StockApi.Baselines.Assembly
import StockApi.Baselines.Contract
import StockApi.Library.Averages
import StockApi.Evaluation.Metrics
import StockApi.Evaluation.WalkForward
import StockApi.Evaluation.Origins
import StockApi.Evaluation.Leaderboard
import StockApi.Evaluation.Pooling
import StockApi.Evaluation.Scaling
import StockApi.Library.KeysetPages
import StockApi.Adjustment.Window
import StockApi.Prices.Reads
import StockApi.Prices.Paging
import StockApi.Prices.AdjustedPaging
import StockApi.Adjustment.FactorStore
import StockApi.Adjustment.FactorHistory
import StockApi.Adjustment.EvidenceAgreement
import StockApi.Prices.ExactVersions
import StockApi.Adjustment.Publications
import StockApi.Snapshots.Table
import StockApi.Snapshots.Builder
import StockApi.Snapshots.Assembled
import StockApi.Snapshots.Rebuild
import StockApi.Snapshots.Contents
import StockApi.Serving.Service
import StockApi.Serving.Selection
import StockApi.Serving.Contract
import StockApi.Serving.Answers
import StockApi.Serving.Refusals
import StockApi.Serving.Builds
import StockApi.Library.ExactDecimal
import StockApi.Forecasts.Store
import StockApi.Forecasts.RoundTrip

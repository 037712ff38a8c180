import SuseokTrader.Broker.Envelopes
import SuseokTrader.Broker.Time
import SuseokTrader.Broker.TimeOrder
import SuseokTrader.Broker.TimeReading
import SuseokTrader.Broker.Utils
import SuseokTrader.Candidate.Episodes
import SuseokTrader.Candidate.Fsm
import SuseokTrader.Candidate.Fusion
import SuseokTrader.Candidate.FusionTruth
import SuseokTrader.Candidate.ReasonLife
import SuseokTrader.Candidate.RebuildTwice
import SuseokTrader.Candidate.Rebuilds
import SuseokTrader.Candidate.ScheduleRuns
import SuseokTrader.Candidate.Settling
import SuseokTrader.Candidate.SourceActivity
import SuseokTrader.Candidate.SourceLaws
import SuseokTrader.Candidate.SourceSchedule
import SuseokTrader.Candidate.Sources
import SuseokTrader.DryRun.ExitAccounts
import SuseokTrader.DryRun.ExitRuns
import SuseokTrader.EntryTiming.TickLaws
import SuseokTrader.EntryTiming.TickSize
import SuseokTrader.Gateway.Admission
import SuseokTrader.Gateway.AdmissionRuns
import SuseokTrader.Gateway.BatchMoves
import SuseokTrader.Gateway.Boundary
import SuseokTrader.Gateway.BoundaryAgreement
import SuseokTrader.Gateway.BoundaryOrder
import SuseokTrader.Gateway.Coherence
import SuseokTrader.Gateway.CommandPolicy
import SuseokTrader.Gateway.CommandStore
import SuseokTrader.Gateway.CoreIo
import SuseokTrader.Gateway.CoreIoLaws
import SuseokTrader.Gateway.CoreIoTicks
import SuseokTrader.Gateway.DeadManCancel
import SuseokTrader.Gateway.DeadManRuns
import SuseokTrader.Gateway.Dispatch
import SuseokTrader.Gateway.DispatchKeys
import SuseokTrader.Gateway.EventBatch
import SuseokTrader.Gateway.EventBatchLaws
import SuseokTrader.Gateway.EventStore
import SuseokTrader.Gateway.KiwoomChejan
import SuseokTrader.Gateway.KiwoomTr
import SuseokTrader.Gateway.Ledger
import SuseokTrader.Gateway.Lifecycle
import SuseokTrader.Gateway.LifecycleLaws
import SuseokTrader.Gateway.OrderAttribution
import SuseokTrader.Gateway.OrderHandling
import SuseokTrader.Gateway.OrderOutcomes
import SuseokTrader.Gateway.OrderRuns
import SuseokTrader.Gateway.PendingOrders
import SuseokTrader.Gateway.Pollers
import SuseokTrader.Gateway.Projection
import SuseokTrader.Gateway.RateLimit
import SuseokTrader.Gateway.RateLimitRuns
import SuseokTrader.Gateway.Realtime
import SuseokTrader.Gateway.RealtimeAgreement
import SuseokTrader.Gateway.Refinement
import SuseokTrader.Gateway.RoutingStatus
import SuseokTrader.Gateway.ShortCodes
import SuseokTrader.Gateway.SnapshotCollection
import SuseokTrader.Gateway.SnapshotCollector
import SuseokTrader.Gateway.StoreRuns
import SuseokTrader.Gateway.Tables
import SuseokTrader.Gateway.TrMatching
import SuseokTrader.Gateway.WireOrder
import SuseokTrader.Lib.Arrivals
import SuseokTrader.Lib.Batch
import SuseokTrader.Lib.Counters
import SuseokTrader.Lib.Counting
import SuseokTrader.Lib.Doubles
import SuseokTrader.Lib.Groups
import SuseokTrader.Lib.Json
import SuseokTrader.Lib.Merging
import SuseokTrader.Lib.Newest
import SuseokTrader.Lib.Queues
import SuseokTrader.Lib.Run
import SuseokTrader.Lib.Scan
import SuseokTrader.Lib.Sha256
import SuseokTrader.Lib.SingleWriter
import SuseokTrader.Lib.Slots
import SuseokTrader.Lib.Sorting
import SuseokTrader.Lib.Table
import SuseokTrader.Lib.Text
import SuseokTrader.Lib.Totals
import SuseokTrader.Lib.Traced
import SuseokTrader.Lib.Transaction
import SuseokTrader.Lib.Windows
import SuseokTrader.LiveSim.AccountLimits
import SuseokTrader.LiveSim.AccountRuns
import SuseokTrader.LiveSim.BrokerFills
import SuseokTrader.LiveSim.BrokerSnapshot
import SuseokTrader.LiveSim.CancelRetries
import SuseokTrader.LiveSim.Cancels
import SuseokTrader.LiveSim.ChejanFills
import SuseokTrader.LiveSim.CloseOnly
import SuseokTrader.LiveSim.DailyLossGuard
import SuseokTrader.LiveSim.EventEffects
import SuseokTrader.LiveSim.Events
import SuseokTrader.LiveSim.Executions
import SuseokTrader.LiveSim.ExitClosure
import SuseokTrader.LiveSim.ExitEffects
import SuseokTrader.LiveSim.ExitEvaluation
import SuseokTrader.LiveSim.ExitPolicy
import SuseokTrader.LiveSim.Exits
import SuseokTrader.LiveSim.FillAccounting
import SuseokTrader.LiveSim.FillAttribution
import SuseokTrader.LiveSim.KeptRows
import SuseokTrader.LiveSim.LifecycleInbox
import SuseokTrader.LiveSim.LifecycleOnce
import SuseokTrader.LiveSim.LifecycleOrder
import SuseokTrader.LiveSim.OrderLimits
import SuseokTrader.LiveSim.OrderNumbers
import SuseokTrader.LiveSim.OrderStatus
import SuseokTrader.LiveSim.Orders
import SuseokTrader.LiveSim.PositionBooks
import SuseokTrader.LiveSim.Positions
import SuseokTrader.LiveSim.QueueCuts
import SuseokTrader.LiveSim.QueueLaws
import SuseokTrader.LiveSim.Reconcile
import SuseokTrader.LiveSim.ReconcileCompleteness
import SuseokTrader.LiveSim.Resolution
import SuseokTrader.LiveSim.Runs
import SuseokTrader.LiveSim.Tables
import SuseokTrader.Market.BarNesting
import SuseokTrader.Market.BarRuns
import SuseokTrader.Market.Bars
import SuseokTrader.Market.ConditionLatest
import SuseokTrader.Market.DayVolume
import SuseokTrader.Market.DeferredEffects
import SuseokTrader.Market.MarketScans
import SuseokTrader.Market.MembershipRuns
import SuseokTrader.Market.Memberships
import SuseokTrader.Market.Projection
import SuseokTrader.Market.Rebuild
import SuseokTrader.Market.RebuildLaws
import SuseokTrader.Market.RebuildRuns
import SuseokTrader.Market.Results
import SuseokTrader.Market.Retries
import SuseokTrader.Market.ScanRuns
import SuseokTrader.Market.Ticks
import SuseokTrader.OrderPlan.Binding
import SuseokTrader.OrderPlan.Eligibility
import SuseokTrader.OrderPlan.Intents
import SuseokTrader.OrderPlan.Races
import SuseokTrader.OrderPlan.Selection
import SuseokTrader.OrderPlan.Sizing
import SuseokTrader.Outbox.EventResults
import SuseokTrader.Outbox.Jobs
import SuseokTrader.Outbox.Retention
import SuseokTrader.Outbox.Routing
import SuseokTrader.Outbox.RoutingRuns
import SuseokTrader.Outbox.WatermarkRuns
import SuseokTrader.Outbox.Workers
import SuseokTrader.ProfitLab.Accounting
import SuseokTrader.ProfitLab.Engine
import SuseokTrader.ProfitLab.NoLookahead
import SuseokTrader.Runtime.ExecutionLocks
import SuseokTrader.Runtime.Fencing
import SuseokTrader.Runtime.IncrementalQueue
import SuseokTrader.Runtime.QueueBackfill
import SuseokTrader.Runtime.QueueOrder

import HyperCopy.Library.Fallible
import HyperCopy.Library.Transition
import HyperCopy.Library.Table
import HyperCopy.Library.TableSum
import HyperCopy.Library.Quantize
import HyperCopy.Library.SortedSet
import HyperCopy.Engine.States
import HyperCopy.Engine.Sizing
import HyperCopy.Engine.Risk
import HyperCopy.Destination.Epochs
import HyperCopy.Destination.EpochHistory
import HyperCopy.Destination.EpochsDisjoint
import HyperCopy.Destination.Evolution
import HyperCopy.Destination.Relink
import HyperCopy.Destination.Starts
import HyperCopy.Destination.Switch
import HyperCopy.Destination.SwitchSettled
import HyperCopy.Destination.RiskEvidence
import HyperCopy.Destination.RiskVenues
import HyperCopy.ProfitExit.SourceCycle
import HyperCopy.ProfitExit.Memory
import HyperCopy.Executor.Planning
import HyperCopy.Executor.AntiReopen
import HyperCopy.Reconcile.PlannerAgreement
import HyperCopy.Reconcile.Batch
import HyperCopy.Reconcile.BatchCapacity
import HyperCopy.ProfitExit.Economics
import HyperCopy.ProfitExit.Submission
import HyperCopy.Executor.State
import HyperCopy.Executor.Step
import HyperCopy.Executor.Effect
import HyperCopy.Executor.Locking
import HyperCopy.Executor.Attempts
import HyperCopy.Executor.AtMostOnce
import HyperCopy.Executor.Reversal
import HyperCopy.Executor.AmbiguityFence
import HyperCopy.Watcher.Checkpoint
import HyperCopy.Strategy.Intents
import HyperCopy.Strategy.Evolution
import HyperCopy.Strategy.Monotone
import HyperCopy.Risex.Market
import HyperCopy.Risex.RiskPlanning
import HyperCopy.Risex.OrderPreparation
import HyperCopy.Risex.CopyExecution
import HyperCopy.Risex.Binding
import HyperCopy.Risex.Submission
import HyperCopy.Risex.SubmissionEffect
import HyperCopy.Risex.ExposureBudget
import HyperCopy.Risex.ExposureReservations
import HyperCopy.Risex.FirstPost
import HyperCopy.Risex.Unresolved
import HyperCopy.Activation.Rollback
import HyperCopy.Activation.RolledBack
import HyperCopy.RateLimit.Limiter
import HyperCopy.RateLimit.Window
import HyperCopy.Leverage.Markers
import HyperCopy.Leverage.Accounting
import HyperCopy.Risex.Window
import HyperCopy.Risex.WindowWorker
import HyperCopy.Risex.WindowLaws
import HyperCopy.Risex.WindowEffect
import HyperCopy.Risex.WindowStates
import HyperCopy.Risex.WindowPosts
import HyperCopy.Risex.ControlFence
import HyperCopy.Library.SortByKey
import HyperCopy.ProfitExit.SourceEvents
import HyperCopy.ProfitExit.CycleIdentity
import HyperCopy.Library.ExpiringTable
import HyperCopy.Session.Refresh
import HyperCopy.Session.RefreshLaws
import HyperCopy.Billing.Webhook
import HyperCopy.Billing.WebhookLaws
import HyperCopy.Risex.JobWriters
import HyperCopy.Risex.TerminalJobs
import HyperCopy.Engine.RiskCaps
import HyperCopy.Engine.SizingLaws
import HyperCopy.Library.Nearest
import HyperCopy.Engine.PriceGrid
import HyperCopy.Library.WeightedSum
import HyperCopy.ProfitExit.ResidualCosts
import HyperCopy.Executor.OrderAnswers
import HyperCopy.Executor.Resolver
import HyperCopy.Executor.ResolverLaws
import HyperCopy.Executor.FillAccounting
import HyperCopy.Executor.FillAccountingFrame
import HyperCopy.Executor.FillAccountingSteps
import HyperCopy.Executor.FillAccountingRuns
import HyperCopy.Library.UnitOfWork
import HyperCopy.Reconcile.FailedBatch
import HyperCopy.Reconcile.FailedBatchLaws
import HyperCopy.Reconcile.RejectionFence
import HyperCopy.Reconcile.RejectionFenceLaws
import HyperCopy.Risex.Settlement
import HyperCopy.Risex.SettlementLaws
import HyperCopy.Admin.LeverageSync
import HyperCopy.Admin.LeverageSyncLaws
import HyperCopy.Library.PackedWord
import HyperCopy.Risex.OrderCodec
import HyperCopy.Library.DecimalContext
import HyperCopy.Reconcile.AiMode
import HyperCopy.Risex.OrderHistory
import HyperCopy.Risex.ConsumedNonce
import HyperCopy.Library.Paging
import HyperCopy.Watcher.Replay
import HyperCopy.Risex.AuthorizedSize
import HyperCopy.Risex.PlanSafety
import HyperCopy.Risex.PlaceIoc
import HyperCopy.RateLimit.SignedCalls
import HyperCopy.RateLimit.AddressCadence
import HyperCopy.Library.Backlog
import HyperCopy.Delivery.Repair
import HyperCopy.Delivery.Queue
import HyperCopy.Delivery.System
import HyperCopy.Delivery.Accounts
import HyperCopy.Delivery.Passes
import HyperCopy.Delivery.Discharge
import HyperCopy.Delivery.Republish
import HyperCopy.Delivery.Fallback
import HyperCopy.Session.Login
import HyperCopy.Session.LoginLaws
import HyperCopy.Executor.Moves
import HyperCopy.ProfitExit.Lifecycle
import HyperCopy.ProfitExit.LifecycleLaws
import HyperCopy.ProfitExit.LifecycleSteps
import HyperCopy.ProfitExit.OneExit
import HyperCopy.ProfitExit.ExitOrders
import HyperCopy.ProfitExit.IntentConsistency
import HyperCopy.ProfitExit.ConsistentRuns
import HyperCopy.Control.Stops
import HyperCopy.Control.CloseAll
import HyperCopy.Control.StopsLaws

import LcpGateway.Accounting.LocalUsage
import LcpGateway.Accounting.OwnRates
import LcpGateway.Accounting.Recording
import LcpGateway.Accounting.Repricing
import LcpGateway.Accounting.TokenSplit
import LcpGateway.Alerts.Manager
import LcpGateway.Auth.ConsoleRuns
import LcpGateway.Auth.CredentialMaps
import LcpGateway.Base.Checks
import LcpGateway.Base.Double
import LcpGateway.Base.Paging
import LcpGateway.Base.Paths
import LcpGateway.Breaker.FailingProvider
import LcpGateway.Breaker.Invariant
import LcpGateway.Breaker.ManualKill
import LcpGateway.Breaker.Persistence
import LcpGateway.Capability.Api
import LcpGateway.Capability.Manual
import LcpGateway.Capability.RegistryRuns
import LcpGateway.Capability.Releases
import LcpGateway.Chat.Pairing
import LcpGateway.Components.Consistency
import LcpGateway.Components.Ownership
import LcpGateway.Config.NormalForm
import LcpGateway.Config.RoundTrip
import LcpGateway.Config.Spellings
import LcpGateway.Conversation.ActivityWindow
import LcpGateway.Conversation.Backfill
import LcpGateway.Conversation.Capture
import LcpGateway.Conversation.History
import LcpGateway.Conversation.Identity
import LcpGateway.Conversation.Interleaving
import LcpGateway.Conversation.Stamping
import LcpGateway.Conversation.Transcript
import LcpGateway.CostCache.Requests
import LcpGateway.CostCache.Retries
import LcpGateway.CostCache.Settings
import LcpGateway.CostCache.Spacing
import LcpGateway.Memory.Stored
import LcpGateway.Pipeline.BreakerLog
import LcpGateway.Pipeline.Forwarded
import LcpGateway.Pipeline.LookAhead
import LcpGateway.Pipeline.ReasoningMaps
import LcpGateway.Pipeline.ReasoningStore
import LcpGateway.Pipeline.Retry
import LcpGateway.Router.BlockRules
import LcpGateway.Router.Caches
import LcpGateway.Router.ChainOrder
import LcpGateway.Router.ContextGate
import LcpGateway.Router.IntentText
import LcpGateway.Router.Intents
import LcpGateway.Router.NestedContext
import LcpGateway.Router.PreambleNeutral
import LcpGateway.Router.RuleOrder
import LcpGateway.Router.Settings
import LcpGateway.Router.TargetChoice
import LcpGateway.Server.BreakerCascade
import LcpGateway.Server.CacheRuns
import LcpGateway.Server.ChainReorder
import LcpGateway.Server.Completions
import LcpGateway.Server.ConfigWrites
import LcpGateway.Server.CredentialMoves
import LcpGateway.Server.HealthListing
import LcpGateway.Server.InFlight
import LcpGateway.Server.ModelsListing
import LcpGateway.Server.OwnRoutes
import LcpGateway.Server.PageRequests
import LcpGateway.Server.ProfileUpdates
import LcpGateway.Server.RepeatedRequests
import LcpGateway.Server.Sse
import LcpGateway.Server.SseInsertion
import LcpGateway.Server.SsrfGuard
import LcpGateway.Server.StaticFiles
import LcpGateway.Setup.InstallRuns
import LcpGateway.Spending.Interleaving
import LcpGateway.Spending.MalformedThresholds
import LcpGateway.Spending.Overshoot
import LcpGateway.Spending.Rotation
import LcpGateway.Spending.Thresholds
import LcpGateway.Ui.Tables
import LcpGateway.Work.CronOps
import LcpGateway.Work.CronSnapshot
import LcpGateway.Work.LiteCache
import LcpGateway.Work.TaskDetail

import ExoBrain.Lib.Dict
import ExoBrain.Lib.Run
import ExoBrain.Lib.Text
import ExoBrain.Lib.Value
import ExoBrain.Lib.Arrivals
import ExoBrain.Lib.Ranking
import ExoBrain.Lib.Effects
import ExoBrain.Byoc.Contracts
import ExoBrain.Byoc.JobStore
import ExoBrain.Byoc.SqliteJobStore
import ExoBrain.Byoc.ResultStore
import ExoBrain.Byoc.SqliteResultStore
import ExoBrain.Byoc.ResultLaws
import ExoBrain.Byoc.Record
import ExoBrain.Byoc.RecordLaws
import ExoBrain.Byoc.Moves
import ExoBrain.Byoc.Leases
import ExoBrain.Byoc.Queue
import ExoBrain.Byoc.Cancellation
import ExoBrain.Byoc.Equivalence
import ExoBrain.Byoc.Interleaving
import ExoBrain.Byoc.ConnectorRuntime
import ExoBrain.Byoc.RuntimeCalls
import ExoBrain.Byoc.Requests
import ExoBrain.Byoc.DeadLetters
import ExoBrain.Byoc.Submission
import ExoBrain.Byoc.Acknowledgement
import ExoBrain.Byoc.TenantView
import ExoBrain.Byoc.Isolation
import ExoBrain.Byoc.ConflictCounts
import ExoBrain.Byoc.Replay
import ExoBrain.Core.Orchestrator
import ExoBrain.Core.Governance
import ExoBrain.Byoc.SweepCounters
import ExoBrain.Policies.FairAdmission
import ExoBrain.Policies.AdmissionLaws
import ExoBrain.Byoc.Execute
import ExoBrain.Policies.SharedAdmission
import ExoBrain.Byoc.Billing
import ExoBrain.Byoc.ArtifactIdentity
import ExoBrain.Core.TaskGraph
import ExoBrain.Lib.Precedence
import ExoBrain.Core.Scheduler
import ExoBrain.Core.SchedulerLedger
import ExoBrain.Core.SchedulerTasks
import ExoBrain.Core.SchedulerRuns
import ExoBrain.Core.SchedulerResult
import ExoBrain.Core.CheckpointStore
import ExoBrain.Core.SchedulerResume
import ExoBrain.Core.BackgroundRuntime
import ExoBrain.Core.BackgroundLaws
import ExoBrain.Runtime.TenantRuntime
import ExoBrain.Runtime.SessionOwnership
import ExoBrain.Core.RunControl
import ExoBrain.Core.RunLifecycle
import ExoBrain.Core.RunEquivalence
import ExoBrain.Schemas.Workflow
import ExoBrain.Policies.RiskGates
import ExoBrain.Runtime.TenantPolicy
import ExoBrain.Api.Turns
import ExoBrain.Core.RunCounting
import ExoBrain.Api.TurnSystem
import ExoBrain.Api.TurnLaws
import ExoBrain.Api.RunRecords
import ExoBrain.Api.RunLimit
import ExoBrain.Api.CancelEquivalence
import ExoBrain.Policies.OverlayStrictness
import ExoBrain.Policies.IngressGates
import ExoBrain.Policies.PolicyTemplates
import ExoBrain.Api.TenantPolicies
import ExoBrain.Agents.Registry
import ExoBrain.Agents.PluginManager
import ExoBrain.Agents.PluginRollback
import ExoBrain.Agents.PluginLifecycle
import ExoBrain.Lib.Runs
import ExoBrain.Tools.Contracts
import ExoBrain.Tools.ArtifactStore
import ExoBrain.Tools.ArtifactIsolation
import ExoBrain.Tools.VersionProjection
import ExoBrain.Tools.PackagePolicy
import ExoBrain.Tools.VersionStore
import ExoBrain.Api.Tools
import ExoBrain.Api.Uploads
import ExoBrain.Api.BundleIntegrity
import ExoBrain.Api.FailedUploads
import ExoBrain.Api.ToolHydration
import ExoBrain.Lib.Filling
import ExoBrain.Api.RestartTransparency
import ExoBrain.Lib.Raising
import ExoBrain.Tools.Decorators
import ExoBrain.Tools.Executor
import ExoBrain.Tools.HostedGuards
import ExoBrain.Agents.PluginUnload
import ExoBrain.Agents.Handoffs
import ExoBrain.Runtime.ContextCache
import ExoBrain.Runtime.SessionCache
import ExoBrain.Tenancy.RateLimiter
import ExoBrain.Mcp.ToolAdapter
import ExoBrain.Mcp.OpenCircuits
import ExoBrain.Mcp.CallerIsolation
import ExoBrain.Tools.IdleEviction
import ExoBrain.Tools.SandboxPool
import ExoBrain.Lib.Json
import ExoBrain.Lib.JsonNormal
import ExoBrain.Lib.JsonRoundTrip
import ExoBrain.Lib.HashChain
import ExoBrain.Audit.Trail
import ExoBrain.Audit.EvidenceBundle
import ExoBrain.Api.Audit
import ExoBrain.Api.AuditExport
import ExoBrain.Core.AgentScaler
import ExoBrain.Policies.BalancedGrants
import ExoBrain.Byoc.ConflictFold
import ExoBrain.Byoc.Retention
import ExoBrain.Core.RunRetention
import ExoBrain.Byoc.DerivedKeys
import ExoBrain.Lib.Window
import ExoBrain.Byoc.BudgetWindows
import ExoBrain.Providers.Registry
import ExoBrain.Providers.Management
import ExoBrain.Providers.Registrations
import ExoBrain.AccessControl.PolicyEngine
import ExoBrain.Agents.HandoffResolution
import ExoBrain.Persistence.ApiKeys
import ExoBrain.Tools.BundleIdentity
import ExoBrain.Policies.ClassifierFallback
import ExoBrain.Policies.TemplateLock
import ExoBrain.Policies.StoredOverlay
import ExoBrain.Tools.CallCourse
import ExoBrain.Tools.CallMetrics
import ExoBrain.Tools.ErrorCodes
import ExoBrain.Runtime.FailedSessions
import ExoBrain.Mcp.FailedCalls
import ExoBrain.Tools.PoolAccounting
import ExoBrain.Lib.PosixPath
import ExoBrain.Tools.ArtifactConfinement
import ExoBrain.Byoc.ReplaySpacing
import ExoBrain.Lib.Custody
import ExoBrain.Core.Tracing
import ExoBrain.Core.TracedRuns
import ExoBrain.Core.NodeSpans
import ExoBrain.Core.JobSpans
import ExoBrain.Core.RunSpans
import ExoBrain.Core.SpanLaws
import ExoBrain.Lib.Semaphore
import ExoBrain.Core.WorkerPool
import ExoBrain.Lib.JsonPlain
import ExoBrain.Lib.Journal
import ExoBrain.Lib.Simulation
import ExoBrain.Lib.TenantTable
import ExoBrain.Api.AuditStores
import ExoBrain.Persistence.SessionStores
import ExoBrain.Core.CheckpointStores
import ExoBrain.Lib.Delegation
import ExoBrain.Identity.Contexts
import ExoBrain.Identity.AccessService
import ExoBrain.Api.Authentication
import ExoBrain.Api.AdminKeys
import ExoBrain.Persistence.AgentStore
import ExoBrain.Api.Agents
import ExoBrain.Api.AgentRestart
import ExoBrain.Api.AgentIsolation
import ExoBrain.Tools.SandboxRuntime
import ExoBrain.Lib.SingleWriter
import ExoBrain.Persistence.Migrations
import ExoBrain.Tenancy.LimiterBackends

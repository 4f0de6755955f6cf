import ConstellationGate.Lib.Dict
import ConstellationGate.Lib.Text
import ConstellationGate.Lib.PrefixCode
import ConstellationGate.Lib.Revalidation
import ConstellationGate.Lib.Noninterference
import ConstellationGate.Lib.Coroutine
import ConstellationGate.Lib.RelyGuarantee
import ConstellationGate.Lib.Binary64
import ConstellationGate.Lib.Clock
import ConstellationGate.Lib.Script
import ConstellationGate.Lib.Transcript
import ConstellationGate.Lib.Footprint
import ConstellationGate.Lib.StateInvariant
import ConstellationGate.Lib.Outcome
import ConstellationGate.Lib.Segments
import ConstellationGate.Lib.Balance
import ConstellationGate.Lib.History
import ConstellationGate.Lib.Turns
import ConstellationGate.Lib.Window
import ConstellationGate.Lib.Spans
import ConstellationGate.Lib.Ranking
import ConstellationGate.Lib.Overlay
import ConstellationGate.Lib.StableQueue
import ConstellationGate.Lib.FirstMatch
import ConstellationGate.Lib.NumberedNames
import ConstellationGate.Lib.Collect
import ConstellationGate.Errors
import ConstellationGate.Routing.ActionOwnership
import ConstellationGate.Routing.OwnerAliases
import ConstellationGate.Routing.NodeRegistry
import ConstellationGate.Routing.RegistryRuns
import ConstellationGate.Routing.VeiledRegistry
import ConstellationGate.Routing.Selection
import ConstellationGate.Routing.Resolution
import ConstellationGate.Transport.Packet
import ConstellationGate.Transport.Sdk
import ConstellationGate.Transport.Validation
import ConstellationGate.Routing.PriorityQueue
import ConstellationGate.Config.Settings
import ConstellationGate.Config.Environment
import ConstellationGate.Boundary.IngressValidator
import ConstellationGate.Boundary.TrustBoundary
import ConstellationGate.Boundary.PacketFactories
import ConstellationGate.Resilience.Idempotency
import ConstellationGate.Resilience.Deadline
import ConstellationGate.Resilience.Admission
import ConstellationGate.Resilience.Replay
import ConstellationGate.Resilience.DeadLetterQueue
import ConstellationGate.Resilience.RetryPolicy
import ConstellationGate.Resilience.BreakerCalls
import ConstellationGate.Resilience.RateLimits
import ConstellationGate.Resilience.OutageLoad
import ConstellationGate.Runtime.NodeLimits
import ConstellationGate.Runtime.RoutingReadiness
import ConstellationGate.Orchestration.WorkflowModels
import ConstellationGate.Orchestration.WorkflowLoader
import ConstellationGate.Orchestration.StepNames
import ConstellationGate.Config.Loaders
import ConstellationGate.Gate
import ConstellationGate.Resilience.RetryLaw
import ConstellationGate.Config
import ConstellationGate.Routing.Resolver
import ConstellationGate.Routing.Dispatch
import ConstellationGate.Routing.DispatchOutline
import ConstellationGate.Routing.Permits
import ConstellationGate.Routing.DispatchRuns
import ConstellationGate.Routing.LoadCounter
import ConstellationGate.Routing.PermitLimit
import ConstellationGate.Routing.DispatchFootprint
import ConstellationGate.Routing.Advertised
import ConstellationGate.Routing.HealthMonitor
import ConstellationGate.Routing.HealthVerdicts
import ConstellationGate.Orchestration.WorkflowEngine
import ConstellationGate.Orchestration.WorkflowFailures
import ConstellationGate.Orchestration.PayloadFold
import ConstellationGate.Orchestration.IdentitySteps
import ConstellationGate.Orchestration.WorkflowFootprint
import ConstellationGate.Orchestration.StepTimeouts
import ConstellationGate.Orchestration.RoutableSteps
import ConstellationGate.Orchestration.ConditionEval
import ConstellationGate.Orchestration.ConditionSemantics
import ConstellationGate.Orchestration.StepIdentities
import ConstellationGate.Services.ExecuteService
import ConstellationGate.Services.CacheLog
import ConstellationGate.Services.CallTrace
import ConstellationGate.Services.PacketBudget
import ConstellationGate.Services.ResultCache
import ConstellationGate.Services.ExecuteFootprint
import ConstellationGate.Services.RegistryUpkeep
import ConstellationGate.Services.CallOpening
import ConstellationGate.Services.ReplayWindow
import ConstellationGate.Services.StepRetries
import ConstellationGate.Services.ReplayIdentity
import ConstellationGate.Services.AdminRegistration
import ConstellationGate.Services.AdmissionService
import ConstellationGate.Services.CapabilityService
import ConstellationGate.Services.ListingOrder
import ConstellationGate.Services.EntityTag
import ConstellationGate.Services.CallSegments
import ConstellationGate.Services.InFlight
import ConstellationGate.Services.ExecutionErrors
import ConstellationGate.Services.ExitAccounting
import ConstellationGate.Services.DeadLetters
import ConstellationGate.Services.CacheHits
import ConstellationGate.Services.SelfRouting
import ConstellationGate.Services.CallHistory
import ConstellationGate.Services.PipelineAuthority
import ConstellationGate.Api.Errors
import ConstellationGate.Services.RaisedClasses
import ConstellationGate.Api.ExecuteEndpoint
import ConstellationGate.Services.AdmissionRate
import ConstellationGate.Services.WorkerLoad
import ConstellationGate.Routing.MonitorLoop
import ConstellationGate.Routing.MonitorLifecycle
import ConstellationGate.Routing.HealthConvergence
import ConstellationGate.Api.Lifespan
import ConstellationGate.Api.CapabilityEndpoint
import ConstellationGate.Api.Endpoints
import ConstellationGate.Api.Confidentiality
import ConstellationGate.Api.Integrity
import ConstellationGate.Api.Process

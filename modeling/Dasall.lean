import Dasall.Runtime.Checkpoint.FailedSave
import Dasall.Runtime.Session.Restart
import Dasall.Runtime.Recovery.Outcome
import Dasall.Runtime.Budget.Accounting
import Dasall.Runtime.Scheduling.Conservation
import Dasall.Runtime.Safety.Controller
import Dasall.Runtime.Fsm.CheckpointHints
import Dasall.Access.Admission.Signature
import Dasall.Access.Gateway.Lifecycle
import Dasall.Access.Daemon.MemberTypes
import Dasall.Access.Daemon.RoundTrip
import Dasall.Infra.Policy.ExplicitDryRun
import Dasall.Infra.Policy.RuleOrder
import Dasall.Infra.Watchdog.Scan
import Dasall.Infra.Tracing.Conservation
import Dasall.Infra.Logging.QueueAccount
import Dasall.Infra.Secret.Leases
import Dasall.Memory.Conflict.Coherence
import Dasall.Knowledge.Index.LedgerRuns
import Dasall.Knowledge.Index.CatalogText
import Dasall.Knowledge.Retrieve.SnippetText
import Dasall.Memory.Writeback.Request
import Dasall.Llm.Stream.Lifecycle
import Dasall.Llm.Route.HealthRuns
import Dasall.Tools.Registry.Integrity
import Dasall.Tools.CompensationHints
import Dasall.Infra.Plugin.ManagedSet
import Dasall.Infra.Ota.Confirmation
import Dasall.Profiles.RuntimePolicyProvider
import Dasall.Services.Idempotency
import Dasall.Cognition.Belief.BeliefUpdateSynthesizer
import Dasall.Cognition.Reasoning.Reasoner
import Dasall.Services.DataQueryLane
import Dasall.MultiAgent.Coordinator
import Dasall.Infra.Diagnostics.RedactionEngine
import Dasall.Runtime.Session.Damaged
import Dasall.Access.Async.Comparison
import Dasall.Runtime.Recovery.Logs
import Dasall.Access.Daemon.ReadText
import Dasall.Access.Gateway.ResultReplayCache
import Dasall.Infra.Metrics.CardinalityGuard
import Dasall.Infra.Watchdog.TimeoutPolicyEngine
import Dasall.Knowledge.Ingest.Canonicalizer
import Dasall.Runtime.Checkpoint.StrictRead
import Dasall.Tools.Route.Completeness
import Dasall.Tools.Execution.WellFormed
import Dasall.Cognition.Validation.PlanGraphInvariants
import Dasall.Knowledge.Query.Idempotence
import Dasall.Llm.Prompt.TemplateRenderer
import Dasall.Memory.Context.DroppedSections
import Dasall.Services.Ops.ServiceHealthProbe
import Dasall.Memory.Vector.SqliteVssVectorBackend
import Dasall.Profiles.ProfileYamlParser
import Dasall.Apps.Tui.ComposerLines
import Dasall.Apps.Cli.ConfigReadBack

import IntentRebase.Graph.Cycles
import IntentRebase.Compensation.Concurrency
import IntentRebase.Orchestrator.UpdaterInterleaving
import IntentRebase.Graph.PropagationRules
import IntentRebase.Forensic.ChainHash
import IntentRebase.Forensic.EvidenceCoverage
import IntentRebase.Forensic.BundleLifecycle
import IntentRebase.Forensic.BundleInterleaving
import IntentRebase.Intent.RepositoryAgreement
import IntentRebase.Intent.ResolvedOnce
import IntentRebase.Engine.MatchingAccount
import IntentRebase.Webhook.DispatchReach
import IntentRebase.Nats.ReplayWorker
import IntentRebase.Api.Authentication
import IntentRebase.Graph.IngestionAgreement
import IntentRebase.Api.CreationOwnership
import IntentRebase.Types.Quota
import IntentRebase.Intent.ScopeHash
import IntentRebase.Compensation.RollbackLedger
import IntentRebase.Api.RecordedExecution
import IntentRebase.Compensation.DryRun
import IntentRebase.Api.DeadLetters
import IntentRebase.Compensation.PlanForecast
import IntentRebase.Engine.RulePackVersions
import IntentRebase.Graph.OrphanDetection
import IntentRebase.Forensic.BundleIndices
import IntentRebase.Api.GraphUpdateTruth
import IntentRebase.Api.TenantIsolation
import IntentRebase.Engine.DiffLaws
import IntentRebase.Engine.SeverityTable
import IntentRebase.Webhook.PropagationAgreement
import IntentRebase.Webhook.RetrySchedule
import IntentRebase.Api.WebhookSubscriptions
import IntentRebase.Forensic.Verification
import IntentRebase.Compensation.ActionAgreement
import IntentRebase.Compensation.RecordAgreement
import IntentRebase.Graph.Expansions
import IntentRebase.Webhook.OutboxRecords
import IntentRebase.Intent.CheckpointRepository
import IntentRebase.Intent.CheckpointService
import IntentRebase.Intent.EventConsumer
import IntentRebase.Intent.MalformedEvents
import IntentRebase.Kit.Tickets
import IntentRebase.Nats.TraceContinuity

import ObligationRuntime.Lib.RouteTable
import ObligationRuntime.Lib.Schema
import ObligationRuntime.Lib.Path
import ObligationRuntime.Lib.Flow
import ObligationRuntime.Lib.Tracing
import ObligationRuntime.Runtime.Tracing
import ObligationRuntime.Lib.EarlyReturn
import ObligationRuntime.Lib.Monitor
import ObligationRuntime.Schemas.Evidence
import ObligationRuntime.Schemas.Decision
import ObligationRuntime.Schemas.Review
import ObligationRuntime.Policy.Models
import ObligationRuntime.Policy.PatchMetadata
import ObligationRuntime.Policy.PatchRules
import ObligationRuntime.Policy.Engine
import ObligationRuntime.Policy.RuleTable
import ObligationRuntime.Policy.ProtocolEvaluator
import ObligationRuntime.Policy.EventHistory
import ObligationRuntime.Policy.OwnerValidation
import ObligationRuntime.Runtime.InitialState
import ObligationRuntime.Runtime.Routes
import ObligationRuntime.Runtime.Handlers
import ObligationRuntime.Runtime.Graph
import ObligationRuntime.Runtime.Runs
import ObligationRuntime.Runtime.Ends
import ObligationRuntime.Runtime.Payload
import ObligationRuntime.Guarantees.AcceptanceSoundness
import ObligationRuntime.Guarantees.ProtocolGate
import ObligationRuntime.Guarantees.TracedRuns
import ObligationRuntime.Guarantees.ReviewerGate
import ObligationRuntime.Guarantees.BatchEvidence
import ObligationRuntime.Gateway.Workspace
import ObligationRuntime.Guarantees.ProtectedPaths
import ObligationRuntime.Gateway.AxiomAudit
import ObligationRuntime.Gateway.Batch
import ObligationRuntime.Sdk.Client
import ObligationRuntime.Sdk.Operations
import ObligationRuntime.Lib.PathWords
import ObligationRuntime.Sdk.TypeScript
import ObligationRuntime.Guarantees.RemoteGateway
import ObligationRuntime.Guarantees.TypeScriptClient
import ObligationRuntime.Guarantees.AcceptanceLane
import ObligationRuntime.Guarantees.AdmittedProofs
import ObligationRuntime.Guarantees.WitnessFidelity
import ObligationRuntime.Runtime.Threads
import ObligationRuntime.Guarantees.ResumeSafety
import ObligationRuntime.Guarantees.ResumeFrame
import ObligationRuntime.Guarantees.TerminalOutcome
import ObligationRuntime.Guarantees.HistoryIndependence
import ObligationRuntime.Lib.Transition
import ObligationRuntime.Gateway.ReviewStore
import ObligationRuntime.Gateway.Reviews
import ObligationRuntime.Guarantees.DecisionFinality
import ObligationRuntime.Guarantees.ReviewEvidence
import ObligationRuntime.Runtime.Parties
import ObligationRuntime.Guarantees.ApprovalBinding
import ObligationRuntime.Lib.FileTree
import ObligationRuntime.Lib.AliasIndex
import ObligationRuntime.Lib.CanonicalJson
import ObligationRuntime.Gateway.Fingerprint
import ObligationRuntime.Gateway.Environment
import ObligationRuntime.Guarantees.Isolation
import ObligationRuntime.Guarantees.SnapshotFreshness
import ObligationRuntime.Lib.TreeCopy
import ObligationRuntime.Gateway.Publication
import ObligationRuntime.Guarantees.SnapshotPublication
import ObligationRuntime.Gateway.Transport
import ObligationRuntime.Guarantees.PathConfinement
import ObligationRuntime.Guarantees.TrustPromotion
import ObligationRuntime.Guarantees.LockDiscipline
import ObligationRuntime.Guarantees.TaskScope
import ObligationRuntime.Guarantees.ReviewBackends
import ObligationRuntime.Runtime.McpSessionStore
import ObligationRuntime.Guarantees.SessionStores
import ObligationRuntime.Runtime.McpServer
import ObligationRuntime.Runtime.McpTools
import ObligationRuntime.Guarantees.McpGateway
import ObligationRuntime.Guarantees.SessionAffinity
import ObligationRuntime.Gateway.LspClient
import ObligationRuntime.Guarantees.InteractiveCheck
import ObligationRuntime.Guarantees.LspCorrelation
import ObligationRuntime.Gateway.Framing
import ObligationRuntime.Guarantees.MessageFraming
import ObligationRuntime.Lib.Insertion
import ObligationRuntime.Guarantees.PolicyOrder
import ObligationRuntime.Policy.EventLists
import ObligationRuntime.Guarantees.EvaluatorAgreement
import ObligationRuntime.Guarantees.VerdictStability
import ObligationRuntime.Guarantees.PatchSummaries
import ObligationRuntime.Lib.DictUpdate
import ObligationRuntime.Lib.Attempt
import ObligationRuntime.Lib.Descent
import ObligationRuntime.Lib.Outcome
import ObligationRuntime.Policy.PackSchema
import ObligationRuntime.Policy.PackLoader
import ObligationRuntime.Guarantees.PackComposition
import ObligationRuntime.Guarantees.StrictImports
import ObligationRuntime.Policy.PackEntry
import ObligationRuntime.Guarantees.PackCache
import ObligationRuntime.Lib.CanonicalText
import ObligationRuntime.Guarantees.FingerprintIdentity
import ObligationRuntime.Guarantees.PatchAtomicity
import ObligationRuntime.Gateway.Normalizers
import ObligationRuntime.Guarantees.DiagnosticsNormalisation
import ObligationRuntime.Lib.Recency
import ObligationRuntime.Gateway.LspProcesses
import ObligationRuntime.Guarantees.LspCache
import ObligationRuntime.Guarantees.ServerLeaks
import ObligationRuntime.Guarantees.ResumeDecisions
import ObligationRuntime.Guarantees.FingerprintFallback
import ObligationRuntime.Guarantees.RunnerContract
import ObligationRuntime.Guarantees.RedactedLogs
import ObligationRuntime.Lib.SettledText
import ObligationRuntime.Guarantees.SharedRecords
import ObligationRuntime.Guarantees.ConfigurationReaders
import ObligationRuntime.Lib.PathNormal
import ObligationRuntime.Lib.SolidPieces
import ObligationRuntime.Guarantees.RootContainment
import ObligationRuntime.Guarantees.AxiomReports
import ObligationRuntime.Guarantees.SingleOwner
import ObligationRuntime.Lib.Fifo
import ObligationRuntime.Gateway.Coordination
import ObligationRuntime.Guarantees.TaskQueues
import ObligationRuntime.Lib.Semaphore
import ObligationRuntime.Gateway.Runners
import ObligationRuntime.Guarantees.RunnerPools
import ObligationRuntime.Gateway.FirecrackerHelper
import ObligationRuntime.Guarantees.HelperScript
import ObligationRuntime.Lib.Redelivery
import ObligationRuntime.Gateway.Webhooks
import ObligationRuntime.Gateway.GatewayApi
import ObligationRuntime.Gateway.Service
import ObligationRuntime.Guarantees.WebhookLog

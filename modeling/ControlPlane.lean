import ControlPlane.Decimal
import ControlPlane.Json
import ControlPlane.JsonText
import ControlPlane.Precedence
import ControlPlane.Regex
import ControlPlane.Embedding
import ControlPlane.Governance.PolicyPack
import ControlPlane.Governance.Quota
import ControlPlane.Governance.QuotaScaling
import ControlPlane.Governance.Cost
import ControlPlane.Governance.Risk
import ControlPlane.Governance.Registry
import ControlPlane.Framing
import ControlPlane.Governance.Attestation
import ControlPlane.Governance.Agents
import ControlPlane.Governance.Sovereign
import ControlPlane.Governance.Approval
import ControlPlane.Governance.PromptSecurity
import ControlPlane.Governance.PromptEmbedding
import ControlPlane.Governance.Pipeline
import ControlPlane.Governance.Severity
import ControlPlane.Governance.Spelling
import ControlPlane.Binding
import ControlPlane.BindingRoundTrip
import ControlPlane.Transaction
import ControlPlane.SerialRuns
import ControlPlane.Interleaving
import ControlPlane.Timestamp
import ControlPlane.Store.Schema
import ControlPlane.Store.Records
import ControlPlane.Store.Approvals
import ControlPlane.Store.Rules
import ControlPlane.Store.Frames
import ControlPlane.Store.SerialRules
import ControlPlane.Store.Policies
import ControlPlane.PolicyLifecycle
import ControlPlane.BundleDigest
import ControlPlane.ApprovalLifecycle
import ControlPlane.Identity
import ControlPlane.Enrichment
import ControlPlane.Capabilities
import ControlPlane.CapabilitySync
import ControlPlane.DurableGovernance
import ControlPlane.GovernanceRouter
import ControlPlane.Redemption
import ControlPlane.CapabilityPinning
import ControlPlane.ExecutionDigests
import ControlPlane.Selection
import ControlPlane.Threads
import ControlPlane.Store.PolicyRules
import ControlPlane.PolicyHistory
import ControlPlane.PolicyOperations
import ControlPlane.PolicyFidelity
import ControlPlane.PolicyRollback
import ControlPlane.PolicyInstalls
import ControlPlane.Moves
import ControlPlane.Takeover
import ControlPlane.Store.MoveRules
import ControlPlane.PolicyRace
import ControlPlane.ContractRace
import ControlPlane.Drift
import ControlPlane.Store.Proposals
import ControlPlane.Remediation
import ControlPlane.Governance.Batch
import ControlPlane.ClientSignals
import ControlPlane.Store.Statements
import ControlPlane.Tenancy
import ControlPlane.Persistence
import ControlPlane.Expiry
import ControlPlane.ApprovalsRouter
import ControlPlane.Resolution
import ControlPlane.TenantView
import ControlPlane.TenantIsolation
import ControlPlane.SqlSchema
import ControlPlane.Migrations
import ControlPlane.Upgrade
import ControlPlane.Store.Trails
import ControlPlane.AuditTrail
import ControlPlane.AuditService
import ControlPlane.MetricLabels
import ControlPlane.PrometheusService
import ControlPlane.IncidentRunbook
import ControlPlane.PolicySimulation
import ControlPlane.Calendar
import ControlPlane.TimestampOrder
import ControlPlane.Retention
import ControlPlane.PullRequests
import ControlPlane.QuotaCounters
import ControlPlane.Governance.RegistryFidelity
import ControlPlane.ExactlyOnce
import ControlPlane.RemediationRuns
import ControlPlane.RemediationRace
import ControlPlane.RemediationProgress
import ControlPlane.RemediationTenants
import ControlPlane.SelfApproval
import ControlPlane.Replicas

/-
# The tables of the decision store (`app/db_schema.py`)

The rows of the tables, their primary and foreign keys, and the sessions and
transactions in which `app/decision_store.py` issues its statements.

The backend here is PostgreSQL with its pool: the connection context of a session commits when
its body succeeds and rolls back when it raises.  `Store.SharedConnection` has the other one.
An operational error of the database arrives already wrapped as `StoreUnavailableError`, as every
method of the store does.
-/
import ControlPlane.Drift
import ControlPlane.Governance.Pipeline
import ControlPlane.Transaction
import ControlPlane.Timestamp

namespace ControlPlane

open Transaction

/-! ## Rows -/

/-- A row of `decisions`; `request` is the text of the request it was made for, read back. -/
structure DecisionRow where
  decisionId : String
  requestId : String
  finalVerdict : Verdict
  policyBundleId : String
  policyDigest : String
  team : String
  tenantId : String
  environment : String
  model : String
  subject : String
  reasons : List String
  stages : List (String × GovernanceStageResult)
  request : GovernanceEvaluateRequest
  requestDigest : String
  agentCapabilityDigest : String
  toolsCapabilityDigest : String
  createdAt : String

/-- The values of `approvals.status`. -/
inductive ApprovalStatus where
  | pending
  | approved
  | rejected
  | expired
  | consumed
  deriving DecidableEq, Repr

/-- The text of a status. -/
def ApprovalStatus.name : ApprovalStatus → String
  | pending => "pending"
  | approved => "approved"
  | rejected => "rejected"
  | expired => "expired"
  | consumed => "consumed"

/-- A row of `approvals`. -/
structure ApprovalRow where
  approvalId : String
  decisionId : String
  status : ApprovalStatus
  reviewer : Option String
  reviewComment : Option String
  createdAt : String
  expiresAt : String
  resolvedAt : Option String
  usedAt : Option String
  deriving DecidableEq, Repr

/-- A row of `audit_meta`. -/
structure AuditMetaRow where
  eventId : String
  decisionId : String
  eventType : String
  actor : String
  payload : List (String × Json.Value)
  createdAt : String

/-- The values of `capability_contracts.status`. -/
inductive ContractStatus where
  | draft
  | active
  | retired
  deriving DecidableEq, Repr

/-- A row of `capability_contracts`. -/
structure CapabilityContractRow where
  contractId : String
  kind : String
  name : String
  tenantId : String
  status : ContractStatus
  version : String
  contentDigest : String
  capabilities : List (String × Json.Value)
  source : String
  createdAt : String
  updatedAt : String
  activatedAt : Option String

/-- The values of `policy_bundles.status`. -/
inductive PolicyStatus where
  | candidate
  | active
  | previous
  deriving DecidableEq, Repr

/-- A row of `policy_bundles`. -/
structure PolicyBundleRow where
  recordId : String
  bundleId : String
  contentDigest : String
  gitRevision : String
  status : PolicyStatus
  generation : Option ℤ
  sourceType : String
  sourceJson : List (String × Json.Value)
  validationStatus : String
  error : Option String
  loadedAt : String
  createdAt : String
  updatedAt : String
  activatedAt : Option String

/-- The values of `remediation_proposals.status`. -/
inductive RemediationStatus where
  | detected
  | proposed
  | policyEvaluated
  | approved
  | rejected
  | prCreated
  | applied
  | verifying
  | verified
  | failed
  deriving DecidableEq, Repr

/-- The text of a status. -/
def RemediationStatus.name : RemediationStatus → String
  | detected => "detected"
  | proposed => "proposed"
  | policyEvaluated => "policy_evaluated"
  | approved => "approved"
  | rejected => "rejected"
  | prCreated => "pr_created"
  | applied => "applied"
  | verifying => "verifying"
  | verified => "verified"
  | failed => "failed"

/-- A row of `remediation_proposals`; the snapshots and the action are their texts, read back. -/
structure RemediationProposalRow where
  proposalId : String
  tenantId : String
  status : RemediationStatus
  source : String
  remediationKind : String
  driftSnapshot : DriftStatus
  selectedAction : DriftSuggestedAction
  decisionId : Option String
  approvalId : Option String
  policyVerdict : Option Verdict
  prTitle : Option String
  prBody : Option String
  prUrl : Option String
  appliedAt : Option String
  verificationSnapshot : Option RuntimeVerificationSnapshot
  failureReason : Option String
  createdAt : String
  updatedAt : String
  deriving DecidableEq

/-- A row of the store. -/
inductive Row where
  | decision (r : DecisionRow)
  | approval (r : ApprovalRow)
  | auditMeta (r : AuditMetaRow)
  | capability (r : CapabilityContractRow)
  | policyBundle (r : PolicyBundleRow)
  | proposal (r : RemediationProposalRow)

namespace Row

/-- The decision that a row is. -/
def decision? : Row → Option DecisionRow
  | decision r => some r
  | _ => none

/-- The approval that a row is. -/
def approval? : Row → Option ApprovalRow
  | approval r => some r
  | _ => none

/-- The audit row that a row is. -/
def auditMeta? : Row → Option AuditMetaRow
  | auditMeta r => some r
  | _ => none

/-- The contract that a row is. -/
def capability? : Row → Option CapabilityContractRow
  | capability r => some r
  | _ => none

/-- The policy bundle that a row is. -/
def policyBundle? : Row → Option PolicyBundleRow
  | policyBundle r => some r
  | _ => none

/-- The proposal that a row is. -/
def proposal? : Row → Option RemediationProposalRow
  | proposal r => some r
  | _ => none

/-- The decision a row refers to. -/
def decisionRef : Row → Option String
  | approval r => some r.decisionId
  | auditMeta r => some r.decisionId
  | _ => none

end Row

/-- The rows of each table. -/
def decisions (rows : List Row) : List DecisionRow := rows.filterMap Row.decision?

/-- The rows of `approvals`. -/
def approvals (rows : List Row) : List ApprovalRow := rows.filterMap Row.approval?

/-- The rows of `audit_meta`. -/
def auditMetas (rows : List Row) : List AuditMetaRow := rows.filterMap Row.auditMeta?

/-- The rows of `capability_contracts`. -/
def capabilities (rows : List Row) : List CapabilityContractRow := rows.filterMap Row.capability?

/-- The rows of `policy_bundles`. -/
def policyBundles (rows : List Row) : List PolicyBundleRow := rows.filterMap Row.policyBundle?

/-- The rows of `remediation_proposals`. -/
def proposals (rows : List Row) : List RemediationProposalRow := rows.filterMap Row.proposal?

/-! ## Keys -/

/-- A primary key with its table. -/
inductive RowKey where
  | decision (id : String)
  | approval (id : String)
  | auditMeta (id : String)
  | capability (id : String)
  | policyBundle (id : String)
  | proposal (id : String)
  deriving DecidableEq, Repr

/-- The primary key of a row. -/
def Row.key : Row → RowKey
  | decision r => .decision r.decisionId
  | approval r => .approval r.approvalId
  | auditMeta r => .auditMeta r.eventId
  | capability r => .capability r.contractId
  | policyBundle r => .policyBundle r.recordId
  | proposal r => .proposal r.proposalId

/-- `REFERENCES decisions(decision_id)`. -/
def refersToDecision (rows : List Row) (row : Row) : Bool :=
  row.decisionRef.all (fun id => (decisions rows).any (fun d => d.decisionId = id))

/-- `self._wrap_db(exc)`. -/
def storeUnavailable : PyError := .storeUnavailable "authoritative store unavailable"

/-- The constraints of the schema; an integrity error is an operational error. -/
def schema : Schema RowKey Row PyError where
  key := Row.key
  refers := refersToDecision
  violation := storeUnavailable

/-! ## Sessions -/

/-- A computation against the store. -/
abbrev StoreM := Prog Row PyError

variable {α : Type}

/-- `SELECT`: the rows that the connection sees. -/
def fetchAll : StoreM (List Row) := do
  let reply ← Prog.call .select
  return reply.rows

/-- `UPDATE` or `DELETE`, and its `rowcount`. -/
def execute (c : Change Row) : StoreM ℕ := do
  let reply ← Prog.call (.change c)
  return reply.count

/-- `INSERT`. -/
def insert (row : Row) : StoreM Unit := do
  let _ ← Prog.call (.insert row)
  return ()

/-- `self._commit(conn)`. -/
def commit : StoreM Unit := do
  let _ ← Prog.call .commit
  return ()

/-- Python code outside of the store that may raise. -/
def pythonStep : StoreM Unit := do
  let _ ← Prog.call .step
  return ()

/-- `with self._session() as conn`, on the pool; its statistics are refreshed at the end. -/
def session (body : StoreM α) : StoreM α := do
  let a ← Prog.atomically body
  pythonStep
  return a

/-- `with self.transaction() as conn`. -/
def transaction (body : StoreM α) : StoreM α := session (Prog.atomically body)

/-- The body on the caller's connection, or in a session of its own with a commit. -/
def onConnection (conn : Bool) (body : StoreM α) : StoreM α :=
  if conn then body
  else session do
    let a ← body
    commit
    return a

/-- The result of a call that runs alone, and the rows that it leaves durable. -/
def outcome (p : StoreM α) (fails : ℕ → Option PyError) (rows : List Row) :
    Except PyError α × List Row :=
  ((p.run schema fails (.ofRows rows)).1, (p.run schema fails (.ofRows rows)).2.committed)

end ControlPlane

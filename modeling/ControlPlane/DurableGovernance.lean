/-
# Durable governance (`app/durable_governance.py`)

How a decision is recorded, with an approval when it needs one, and how an approval that
was granted pays for a later request.
-/
import ControlPlane.Binding
import ControlPlane.Capabilities
import ControlPlane.Identity
import ControlPlane.Store.Approvals

namespace ControlPlane

open Transaction

variable (py : PyRuntime) (sha256 : String → String)

/-- The ids that one request draws. -/
structure Draws where
  requestId : String
  decisionId : String
  approvalId : String
  /-- the audit row of the consumption -/
  consumedEvent : String
  /-- the audit row of a new approval -/
  createdEvent : String
  /-- the audit row of the decision -/
  recordedEvent : String

/-- `request.owner or request.subject or "system"`. -/
def actorOf (request : GovernanceEvaluateRequest) : String :=
  firstNonempty [request.owner, request.subject, "system"]

/-- The digests that apply to a request. -/
def currentDigests (request : GovernanceEvaluateRequest) : StoreM (String × String) :=
  resolveExecutionCapabilityDigests py sha256 request.agent (orElse request.tenantId request.team)

/-! ## Recording a decision -/

/-- The digests pinned to a decision: those of the response, else the current ones. -/
def pinnedDigests (result : GovernanceEvaluateResponse) (request : GovernanceEvaluateRequest) :
    StoreM (String × String) :=
  let agentDigest := result.agentCapabilityDigest.getD ""
  let toolsDigest := result.toolsCapabilityDigest.getD ""
  if agentDigest = "" ∧ toolsDigest = "" then currentDigests py sha256 request
  else return (agentDigest, toolsDigest)

/-- The decision that is recorded for a response. -/
def newDecision (result : GovernanceEvaluateResponse) (request : GovernanceEvaluateRequest)
    (requestId : String) (digests : String × String) : NewDecision where
  finalVerdict := result.finalVerdict
  requestId := requestId
  policyBundleId := result.policyBundleId.getD ""
  policyDigest := result.policyDigest.getD ""
  team := request.team
  tenantId := orElse request.tenantId request.team
  environment := request.environment
  model := request.model
  subject := orElse request.subject request.owner
  reasons := result.reasons
  stages := result.stages
  request := request
  requestDigest := Binding.computeRequestDigest py sha256 request
  agentCapabilityDigest := digests.1
  toolsCapabilityDigest := digests.2

/-- The payload of the audit row of a decision. -/
def recordedPayload (finalVerdict : Verdict) (requestId : String) (approvalId : Option String)
    (requestDigest : String) : List (String × Json.Value) :=
  [("final_verdict", .str finalVerdict.name), ("request_id", .str requestId),
    ("approval_id", approvalId.elim .null .str), ("request_digest", .str requestDigest)]

/-- A decision that requires approval gets a pending one, unless it cites one. -/
def requestApproval (result : GovernanceEvaluateResponse) (request : GovernanceEvaluateRequest)
    (draws : Draws) (ttlSeconds : ℤ) (clock : ℕ → Instant) : StoreM (Option String) :=
  if result.finalVerdict = .approvalRequired ∧ result.approvalId.getD "" = "" then do
    let approvalId ← createApproval draws.decisionId ttlSeconds draws.approvalId (clock 1) true
    let _ ← appendAuditMeta draws.decisionId "approval_created" (actorOf request)
      [("approval_id", .str approvalId),
        ("request_digest", .str (Binding.computeRequestDigest py sha256 request))]
      draws.createdEvent (clock 2) true
    return some approvalId
  else return result.approvalId

/-- The transaction of `persist_evaluation`. -/
def recordEvaluation (result : GovernanceEvaluateResponse) (request : GovernanceEvaluateRequest)
    (draws : Draws) (ttlSeconds : ℤ) (digests : String × String) (clock : ℕ → Instant) :
    StoreM (Option String) := do
  let decisionId ← createDecision
    (newDecision py sha256 result request draws.requestId digests) draws.decisionId (clock 0) true
  let approvalId ← requestApproval py sha256 result request draws ttlSeconds clock
  let _ ← appendAuditMeta decisionId "decision_recorded" (actorOf request)
    (recordedPayload result.finalVerdict draws.requestId approvalId
      (Binding.computeRequestDigest py sha256 request))
    draws.recordedEvent (clock 3) true
  return approvalId

/-- `persist_evaluation`. -/
def persistEvaluation (result : GovernanceEvaluateResponse) (request : GovernanceEvaluateRequest)
    (draws : Draws) (ttlSeconds : ℤ) (clock : ℕ → Instant) :
    StoreM GovernanceEvaluateResponse := do
  let digests ← pinnedDigests py sha256 result request
  let approvalId ← transaction
    (recordEvaluation py sha256 result request draws ttlSeconds digests clock)
  return { result with
    decisionId := some draws.decisionId
    approvalId := approvalId
    agentCapabilityDigest := orNone digests.1
    toolsCapabilityDigest := orNone digests.2 }

/-! ## Redeeming an approval -/

/-- Two digests that are both there and differ. -/
def clash (x y : String) : Bool := x ≠ "" ∧ y ≠ "" ∧ x ≠ y

/-- The digest that the decision of an approval is bound to. -/
def approvedDigest (d : DecisionRow) : String :=
  orElse d.requestDigest (Binding.computeRequestDigest py sha256 d.request)

/-- The approval is approved and has not been used. -/
def ApprovalRow.isOpen (a : ApprovalRow) : Bool := a.status = .approved ∧ a.usedAt.getD "" = ""

/-- The request and the policy are those of the decision. -/
def bindsRequest (request : GovernanceEvaluateRequest) (policyDigest : String) (d : DecisionRow) :
    Bool :=
  approvedDigest py sha256 d ≠ "" ∧
    Binding.computeRequestDigest py sha256 request = approvedDigest py sha256 d ∧
    ¬ clash policyDigest d.policyDigest

/-- The capability digests of the decision are not contradicted. -/
def bindsCapabilities (digests : String × String) (d : DecisionRow) : Bool :=
  ¬ clash digests.1 d.agentCapabilityDigest ∧ ¬ clash digests.2 d.toolsCapabilityDigest

/-- The capability check, and the consumption. -/
def spendApproval (approvalId : String) (request : GovernanceEvaluateRequest) (d : DecisionRow)
    (consumedEvent : String) (clock : ℕ → Instant) : StoreM Bool := do
  let digests ← currentDigests py sha256 request
  if ¬ bindsCapabilities digests d then return false
  else
    consumeAndAudit approvalId d.decisionId (actorOf request)
      (Binding.computeRequestDigest py sha256 request) consumedEvent (fun i => clock (i + 2))

/-- The checks of the decision of an open approval, and what follows. -/
def redeemDecision (approvalId : String) (request : GovernanceEvaluateRequest)
    (policyDigest : String) (decision : Option DecisionRow) (consumedEvent : String)
    (clock : ℕ → Instant) : StoreM Bool :=
  match decision with
  | none => return false
  | some d =>
    if ¬ bindsRequest py sha256 request policyDigest d then return false
    else spendApproval py sha256 approvalId request d consumedEvent clock

/-- The checks of the approval, and what follows. -/
def redeemApproval (approvalId : String) (request : GovernanceEvaluateRequest)
    (policyDigest : String) (approval : Option ApprovalRow) (consumedEvent : String)
    (clock : ℕ → Instant) : StoreM Bool :=
  match approval with
  | none => return false
  | some a =>
    if ¬ a.isOpen then return false
    else do
      let decision ← getDecision a.decisionId none
      redeemDecision py sha256 approvalId request policyDigest decision consumedEvent clock

/-- `approval_grants_allow`. -/
def approvalGrantsAllow (approvalId : String) (request : GovernanceEvaluateRequest)
    (policyDigest : String) (consumedEvent : String) (clock : ℕ → Instant) : StoreM Bool := do
  let approval ← getApproval approvalId none clock
  redeemApproval py sha256 approvalId request policyDigest approval consumedEvent clock

end ControlPlane

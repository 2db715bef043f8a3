/-
# The remediation endpoints (`app/routers/remediation.py`, `app/authz.py`)

Each endpoint takes a role, a tenant or a reviewer from the token of its request and hands them to
the service.  A token that has no role across tenants keeps to the proposals of its own tenant.
-/
import ControlPlane.RemediationRuns

namespace ControlPlane

open Transaction

/-! ## Authorisation -/

section Authorisation

variable (py : PyRuntime) (auth : AuthEnv)

/-- The answers to the exceptions of an identity. -/
def identityException {α : Type} : Except PyError α → Except PyError α
  | .error (.authenticationError text) => .error (.httpException 401 text)
  | .error (.authorizationError text) => .error (.httpException 403 text)
  | result => result

/-- `require_roles`. -/
def requireRoles (headers : Headers) (roles : List String) : Except PyError String :=
  identityException (requireAnyRole py auth headers roles)

/-- The default of `allow_cross_tenant_roles`. -/
def crossTenantRoles : List String := ["platform-admin", "auditor"]

/-- `x.strip() or None`. -/
def stripped (text : String) : Option String := if strip text = "" then none else some (strip text)

/-- `tenant_for_request`. -/
def tenantForRequest (headers : Headers) (queryTenant bodyTenant : String) :
    Except PyError (Option String) :=
  let requested := stripped (orElse queryTenant bodyTenant)
  if ¬ auth.jwtVerify then .ok requested
  else do
    let claims ← identityException (requireBearerClaims py auth headers)
    let jwtTenant ← identityException (resolveRequestTenant py auth headers)
    if crossTenantRoles.any (fun role => role ∈ rolesFromClaims py auth claims) then
      return requested.orElse (fun _ => if jwtTenant = "" then none else some jwtTenant)
    else if jwtTenant = "" then
      if auth.tenantIsolation then
        .error (.httpException 400 "tenant required in JWT claims")
      else return requested
    else if requested.any (fun tenant => tenant ≠ jwtTenant) then
      .error (.httpException 403 "cross-tenant access denied")
    else return some jwtTenant

end Authorisation

/-! ## Listing -/

/-- A page of proposals. -/
structure RemediationProposalPage where
  items : List RemediationProposalRow
  total : ℕ
  limit : ℕ
  offset : ℕ

/-- The proposals with a status and a tenant, where these are given. -/
def proposalsWith (status tenantId : Option String) (rows : List Row) :
    List RemediationProposalRow :=
  (proposals rows).filter (fun p => (status.filter (· ≠ "")).all (fun s => p.status.name = s) &&
    tenantId.all (fun t => p.tenantId = t))

/-- `list_remediation_proposals`. -/
def listRemediationProposals (status : Option String) (limit offset : ℤ)
    (tenantId : Option String) : StoreM RemediationProposalPage := do
  let limit := (max 1 (min limit 500)).toNat
  let offset := (max 0 offset).toNat
  session do
    let counted ← fetchAll
    let rows ← fetchAll
    return {
      items := (((proposalsWith status tenantId rows).insertionSort
        (fun a b => a.createdAt ≤ b.createdAt)).drop offset).take limit
      total := (proposalsWith status tenantId counted).length
      limit := limit
      offset := offset }

namespace Remediation

/-! ## The endpoints -/

/-- `CreateRemediationRequest`. -/
structure CreateRemediationRequest where
  actionIndex : Option ℤ := none
  actionKind : Option String := none
  environment : String := "production"
  tenantId : String := ""

/-- `ResolveRemediationRequest`. -/
structure ResolveRemediationRequest where
  reviewer : String := ""
  comment : String := ""

section Endpoints

variable (server : Server)

/-- `_tenant_scope`. -/
def tenantScope (headers : Headers) (bodyTenant : String) : Except PyError (Option String) :=
  if ¬ server.signals.auth.tenantIsolation then .ok (stripped bodyTenant)
  else do
    let tenant ← identityException (resolveRequestTenant server.py server.signals.auth headers)
    let tenant := orElse tenant (strip bodyTenant)
    if tenant = "" then .error (.httpException 400 "tenant required") else return some tenant

/-- `tenant_for_request(request) or _tenant_scope(request)`. -/
def requestTenant (headers : Headers) (bodyTenant : String) : Except PyError (Option String) := do
  match ← tenantForRequest server.py server.signals.auth headers "" bodyTenant with
  | some tenant => return some tenant
  | none => tenantScope server headers bodyTenant

/-- The answers to the exceptions of an operation on a proposal. -/
def operationException : PyError → PyError
  | .keyError _ => .httpException 404 "remediation proposal not found"
  | .valueError text => .httpException 409 text
  | .storeUnavailable _ => .httpException 503 "authoritative store unavailable"
  | e => e

/-- The answers to the exceptions of an evaluation: that of the store is a `RuntimeError`, and
caught as one. -/
def evaluationException : PyError → PyError
  | .runtimeError text => .httpException 503 text
  | .storeUnavailable text => .httpException 503 text
  | e => operationException e

/-- The answers to the exceptions of a creation. -/
def creationException : PyError → PyError
  | .valueError text => .httpException 400 text
  | .storeUnavailable _ => .httpException 503 "authoritative store unavailable"
  | e => e

/-- An operation whose exceptions are answered. -/
def answering {α : Type} (exception : PyError → PyError) (program : StoreM α) : StoreM α :=
  program.handle (fun e => throw (exception e))

/-- `create_proposal`; `status` is the drift of the inventory. -/
def createProposal (headers : Headers) (body : CreateRemediationRequest) (status : DriftStatus)
    (proposalId : String) (now : Instant) : StoreM RemediationProposalRow := do
  let _ ← Prog.done (requireRoles server.py server.signals.auth headers
    ["tenant-admin", "platform-admin"])
  let tenant ← Prog.done (requestTenant server headers body.tenantId)
  answering creationException (createFromDrift
    (tenant.getD (orElse body.tenantId "platform")) body.actionIndex body.actionKind status
    proposalId now)

/-- The roles that read proposals. -/
def readerRoles : List String :=
  ["tenant-admin", "platform-admin", "auditor", "viewer", "approver"]

/-- `list_proposals`. -/
def listProposals (headers : Headers) (status : Option String) (limit offset : ℤ) :
    StoreM RemediationProposalPage := do
  let _ ← Prog.done (requireRoles server.py server.signals.auth headers readerRoles)
  let tenant ← Prog.done (requestTenant server headers "")
  answering Server.storeException (listRemediationProposals status limit offset tenant)

/-- `get_proposal`. -/
def getProposal (headers : Headers) (proposalId : String) : StoreM RemediationProposalRow := do
  let _ ← Prog.done (requireRoles server.py server.signals.auth headers readerRoles)
  let tenant ← Prog.done (requestTenant server headers "")
  let record ← answering Server.storeException (getRemediationProposal proposalId tenant)
  match record with
  | some record => return record
  | none => throw (.httpException 404 "remediation proposal not found")

/-- `evaluate_proposal_policy`. -/
def evaluateProposalPolicy (process : PolicyProcess) (headers : Headers)
    (proposalId environment : String) (draws : Draws) (clock : ℕ → Instant) :
    StoreM RemediationProposalRow := do
  let _ ← Prog.done (requireRoles server.py server.signals.auth headers
    ["tenant-admin", "platform-admin"])
  let tenant ← Prog.done (requestTenant server headers "")
  answering evaluationException
    (evaluatePolicy server process proposalId tenant environment tenant draws clock)

/-- One resolution; its roles are those of the reviewer. -/
def resolveEndpoint (approved : Bool) (headers : Headers) (proposalId : String)
    (payload : ResolveRemediationRequest) (eventId : String) (clock : ℕ → Instant) :
    StoreM RemediationProposalRow := do
  let tenant ← Prog.done (tenantScope server headers "")
  let reviewer ← Prog.done (identityException
    (resolveApproverIdentity server.py server.signals.auth headers payload.reviewer))
  answering operationException (resolveProposal server.py proposalId approved reviewer
    payload.comment tenant eventId clock)

/-- `approve_proposal`. -/
def approveProposal : Headers → String → ResolveRemediationRequest → String → (ℕ → Instant) →
    StoreM RemediationProposalRow := resolveEndpoint server true

/-- `reject_proposal`. -/
def rejectProposal : Headers → String → ResolveRemediationRequest → String → (ℕ → Instant) →
    StoreM RemediationProposalRow := resolveEndpoint server false

/-- `prepare_proposal_pr`. -/
def prepareProposalPr (gitops : GitOpsPullRequestRequest → Except String (Option String))
    (headers : Headers) (proposalId prUrl : String) (now : Instant) :
    StoreM RemediationProposalRow := do
  let _ ← Prog.done (requireRoles server.py server.signals.auth headers
    ["tenant-admin", "platform-admin"])
  let tenant ← Prog.done (requestTenant server headers "")
  answering operationException
    (preparePrDraft gitops proposalId tenant (if prUrl = "" then none else some prUrl) now)

/-- `mark_proposal_applied`. -/
def markProposalApplied (headers : Headers) (proposalId prUrl : String) (clock : ℕ → Instant) :
    StoreM RemediationProposalRow := do
  let _ ← Prog.done (requireRoles server.py server.signals.auth headers
    ["runtime-service", "platform-admin"])
  let tenant ← Prog.done (requestTenant server headers "")
  answering operationException
    (markApplied proposalId tenant (if prUrl = "" then none else some prUrl) clock)

/-- `verify_proposal`; `inventory` is what fresh probes report. -/
def verifyProposal (headers : Headers) (proposalId : String) (inventory : DriftStatus)
    (clock : ℕ → Instant) : StoreM RemediationProposalRow := do
  let _ ← Prog.done (requireRoles server.py server.signals.auth headers
    ["runtime-service", "platform-admin"])
  let tenant ← Prog.done (requestTenant server headers "")
  answering operationException (verifyRuntime proposalId tenant inventory true clock)

end Endpoints

end Remediation

end ControlPlane

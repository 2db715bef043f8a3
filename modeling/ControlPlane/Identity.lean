/-
# Identity and roles (`app/identity_service.py`, `app/rbac.py`)

Who asks and who reviews is read off the same token in two ways: the workload identity of
an evaluate call, and the reviewer of an approval.  The library that verifies a token is a
parameter.
-/
import ControlPlane.Request

namespace ControlPlane

/-- The claims of a token, as its decoded dictionary lists them. -/
abbrev Claims := List (String × Json.Value)

/-- The headers of a request, under their lower-case names. -/
abbrev Headers := Dict String

/-- The configuration of authentication and authorisation. -/
structure AuthEnv where
  /-- `OIDC_JWT_VERIFY` -/
  jwtVerify : Bool := false
  /-- `TENANT_JWT_ONLY` -/
  tenantJwtOnly : Bool := false
  /-- `TENANT_ISOLATION` -/
  tenantIsolation : Bool := false
  /-- `GOVERNANCE_ALLOW_CLIENT_SIGNALS` -/
  allowClientSignals : Bool := false
  /-- `OIDC_APPROVER_GROUPS` -/
  approverGroups : String := ""
  /-- `OIDC_ROLE_<role>_GROUPS` of a role -/
  roleGroupsVar : String → String := fun _ => ""
  /-- the claims of a bearer token, `none` when it is refused -/
  verifyBearerToken : String → Option Claims
  /-- the claims of a token whose signature is not verified -/
  decodeUnsignedPayload : String → Option Claims

variable (py : PyRuntime)

/-! ## Claims -/

/-- `claims.get(key)`; a missing claim is `None`. -/
def Claims.get (claims : Claims) (key : String) : Json.Value := (claims.lookup key).getD .null

/-- `str(claims.get(k₁) or claims.get(k₂) or … or "").strip()`. -/
def claimText (claims : Claims) (keys : List String) : String :=
  strip (py.strJson (((keys.map claims.get).find? jsonTruthy).getD (.str "")))

theorem strip_claimText (claims : Claims) (keys : List String) :
    strip (claimText py claims keys) = claimText py claims keys := strip_strip _

/-- `normalize_groups`. -/
def normalizeGroups : Json.Value → List String
  | .arr items => (items.map (fun item => strip (py.strJson item))).filter (· ≠ "")
  | .str s => splitCsv s
  | _ => []

/-- `claim_roles`. -/
def claimRoles (claims : Claims) : List String :=
  normalizeGroups py (claims.get "groups") ++ normalizeGroups py (claims.get "roles") ++
    match claims.get "realm_access" with
    | .obj fields => normalizeGroups py (Claims.get fields "roles")
    | _ => []

/-! ## Tokens -/

section Tokens

variable (auth : AuthEnv)

/-- The token of `authorization: Bearer …`, `none` without one. -/
def bearerToken (headers : Headers) : Option String :=
  let authorization := headers.getD "authorization" ""
  if startsWith (py.lower authorization) "bearer " then
    let token := strip (dropChars 7 authorization)
    if token = "" then none else some token
  else none

/-- `extract_bearer_claims`: a missing or refused token has no claims. -/
def extractBearerClaims (headers : Headers) : Claims :=
  match bearerToken py headers with
  | none => []
  | some token =>
    ((if auth.jwtVerify then auth.verifyBearerToken token
      else auth.decodeUnsignedPayload token)).getD []

/-- `require_bearer_claims`. -/
def requireBearerClaims (headers : Headers) : Except PyError Claims :=
  match bearerToken py headers with
  | none => .error (.authenticationError "missing bearer token")
  | some token =>
    match (if auth.jwtVerify then auth.verifyBearerToken token
      else auth.decodeUnsignedPayload token) with
    | none => .error (.authenticationError "invalid bearer token")
    | some claims => .ok claims

/-! ## Roles -/

/-- `KNOWN_ROLES`. -/
def knownRoles : List String :=
  ["platform-admin", "tenant-admin", "approver", "auditor", "viewer", "runtime-service"]

/-- `_DEFAULT_ROLE_GROUPS`. -/
def defaultRoleGroups : String → List String
  | "platform-admin" => ["platform-admins", "ai-platform-admins"]
  | "tenant-admin" => ["tenant-admins", "ai-tenant-admins"]
  | "auditor" => ["ai-auditors", "auditors"]
  | "viewer" => ["ai-viewers", "viewers"]
  | "runtime-service" => ["ai-runtime-services", "runtime-services"]
  | _ => []

/-- `get_approver_groups`. -/
def getApproverGroups : List String :=
  if strip auth.approverGroups = "" then ["ai-approvers", "secops"]
  else splitCsv (strip auth.approverGroups)

/-- `role_groups`. -/
def roleGroups (role : String) : List String :=
  if role ∉ knownRoles then []
  else if strip (auth.roleGroupsVar role) ≠ "" then splitCsv (strip (auth.roleGroupsVar role))
  else if role = "approver" then getApproverGroups auth
  else defaultRoleGroups role

/-- `roles_from_claims`. -/
def rolesFromClaims (claims : Claims) : List String :=
  knownRoles.filter (fun role =>
    (claimRoles py claims).any (fun claimed => claimed ∈ roleGroups auth role ∨ claimed = role))

/-- The name under which a token reviews. -/
def reviewerName (claims : Claims) : String := claimText py claims ["preferred_username", "sub"]

/-- `require_any_role`. -/
def requireAnyRole (headers : Headers) (required : List String) : Except PyError String :=
  if required = [] then .error (.valueError "at least one role is required")
  else if ¬ auth.jwtVerify then .ok "demo"
  else do
    let claims ← requireBearerClaims py auth headers
    if reviewerName py claims = "" then
      .error (.authenticationError "token missing subject")
    else if ¬ required.any (fun role => role ∈ rolesFromClaims py auth claims) then
      .error (.authorizationError ("required role: " ++ " or ".intercalate required))
    else .ok (reviewerName py claims)

/-- `resolve_approver_identity`. -/
def resolveApproverIdentity (headers : Headers) (bodyReviewer : String) :
    Except PyError String :=
  if auth.jwtVerify then requireAnyRole py auth headers ["approver"]
  else if strip bodyReviewer = "" then .error (.authenticationError "reviewer required")
  else .ok (strip bodyReviewer)

/-! ## The workload identity -/

/-- `KNOWN_TEAMS`. -/
def knownTeams : List String := ["platform", "finance", "search"]

/-- Where an identity was found. -/
inductive IdentitySource where
  | jwt
  | headers
  | body
  | default
  deriving DecidableEq, Repr

/-- `WorkloadIdentity`. -/
structure WorkloadIdentity where
  subject : String := "anonymous"
  team : String := "platform"
  tenantId : String := "platform"
  owner : String := "unknown"
  groups : List String := []
  policyPack : String := ""
  environment : String := "development"
  «namespace» : String := "ai-dev"
  source : IdentitySource := .default
  deriving DecidableEq, Repr

/-- `headers.get(name, "").strip()`. -/
def headerText (headers : Headers) (name : String) : String := strip (headers.getD name "")

/-- `x₁ or x₂ or …` on strings. -/
def firstNonempty (texts : List String) : String := (texts.find? (· ≠ "")).getD ""

/-- `parse_groups_header`. -/
def parseGroupsHeader (headers : Headers) : List String :=
  splitCsv (headerText headers "x-ai-groups")

/-- `team_from_groups` without a fallback. -/
def teamFromGroups (groups : List String) : String :=
  (groups.find? (· ∈ knownTeams)).getD ""

/-- The name under which a token asks. -/
def subjectName (claims : Claims) : String := claimText py claims ["sub", "email"]

/-- The subject of an identity. -/
def resolveSubject (claims : Claims) (headers : Headers) (body : GovernanceEvaluateRequest) :
    String :=
  firstNonempty [subjectName py claims, headerText headers "x-ai-subject", body.subject,
    "anonymous"]

/-- The team and the tenant of an identity when they may only come from the token. -/
def jwtTenant (claims : Claims) : Except PyError (String × String) :=
  let team := firstNonempty
    [claimText py claims ["team"], teamFromGroups (normalizeGroups py (claims.get "groups"))]
  let tenantId := firstNonempty [claimText py claims ["tenant", "tenant_id"], team]
  if tenantId = "" then .error (.authenticationError "token missing tenant claim")
  else .ok (team, tenantId)

/-- The team and the tenant of an identity from the token, the headers and the body. -/
def openTenant (claims : Claims) (headers : Headers) (groups : List String)
    (body : GovernanceEvaluateRequest) : String × String :=
  let team := firstNonempty [claimText py claims ["team"], headerText headers "x-ai-team",
    teamFromGroups groups, body.team]
  let tenantId := firstNonempty [claimText py claims ["tenant", "tenant_id"],
    headerText headers "x-ai-tenant", strip body.tenantId, team]
  (team, tenantId)

/-- Where the identity of a request was found. -/
def identitySource (claims : Claims) (headers : Headers) (body : GovernanceEvaluateRequest) :
    IdentitySource :=
  if claims ≠ [] then .jwt
  else if ["x-ai-subject", "x-ai-team", "x-ai-tenant", "x-ai-owner", "x-ai-groups"].any
      (fun name => headers.getD name "" ≠ "") then .headers
  else if body.subject ≠ "" ∨ body.groups ≠ [] then .body
  else .default

/-- The claims an identity is resolved from. -/
def identityClaims (headers : Headers) : Except PyError Claims :=
  if auth.tenantJwtOnly then
    if ¬ auth.jwtVerify then
      .error (.authenticationError "TENANT_JWT_ONLY requires OIDC_JWT_VERIFY=true")
    else requireBearerClaims py auth headers
  else .ok (extractBearerClaims py auth headers)

/-- `resolve_workload_identity`. -/
def resolveWorkloadIdentity (headers : Headers) (body : GovernanceEvaluateRequest) :
    Except PyError WorkloadIdentity := do
  let claims ← identityClaims py auth headers
  let claimGroups := normalizeGroups py (claims.get "groups")
  let groups := if claimGroups ≠ [] then claimGroups
    else if parseGroupsHeader headers ≠ [] then parseGroupsHeader headers else body.groups
  let (team, tenantId) ←
    if auth.tenantJwtOnly then jwtTenant py claims
    else .ok (openTenant py claims headers groups body)
  return {
    subject := resolveSubject py claims headers body
    team := team
    tenantId := tenantId
    owner := firstNonempty [claimText py claims ["preferred_username", "name"],
      headerText headers "x-ai-owner", body.owner]
    groups := groups
    policyPack := firstNonempty [claimText py claims ["policy_pack"],
      headerText headers "x-ai-policy-pack", body.policyPack]
    environment := firstNonempty [claimText py claims ["environment"],
      headerText headers "x-ai-environment", body.environment]
    «namespace» := firstNonempty [claimText py claims ["namespace"],
      headerText headers "x-ai-namespace", body.namespace]
    source := identitySource claims headers body }

/-- `apply_identity`. -/
def applyIdentity (body : GovernanceEvaluateRequest) (identity : WorkloadIdentity) :
    GovernanceEvaluateRequest :=
  { body with
    subject := identity.subject
    team := identity.team
    owner := identity.owner
    groups := identity.groups
    policyPack := identity.policyPack
    environment := identity.environment
    «namespace» := identity.namespace
    tenantId := identity.tenantId }

/-- `resolve_request_tenant`. -/
def resolveRequestTenant (headers : Headers) : Except PyError String := do
  let claims ← identityClaims py auth headers
  if auth.tenantJwtOnly then
    return firstNonempty [claimText py claims ["tenant", "tenant_id"], claimText py claims ["team"]]
  else
    return firstNonempty [claimText py claims ["tenant", "tenant_id"],
      headerText headers "x-ai-tenant", claimText py claims ["team"],
      headerText headers "x-ai-team"]

end Tokens

end ControlPlane

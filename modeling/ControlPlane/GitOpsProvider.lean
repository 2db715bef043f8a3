/-
# The GitOps provider (`app/gitops_provider.py`)

`create_draft_pull_request` looks for an open pull request of the proposal, makes sure of
its branch, writes two files there, and returns the pull request that it found or opens one.
Every step looks before it acts, and what it saw can be out of date when it acts.
-/
import ControlPlane.GitHub
import ControlPlane.JsonText
import ControlPlane.Remediation

namespace ControlPlane.GitOps

open GitHub RemoteCalls
open Remediation (GitOpsPullRequestRequest)

/-! ## Results and exceptions -/

/-- `GitOpsPullRequestResult`. -/
structure GitOpsPullRequestResult where
  prUrl : Option String
  provider : String
  draft : Bool
  created : Bool
  detail : String
  headSha : String
  deriving DecidableEq, Repr

/-- The exceptions that reach the end of a call. -/
inductive ProviderError where
  /-- `GitOpsProviderError` -/
  | gitOps (text : String)
  /-- `httpx.HTTPError` -/
  | http (text : String)
  | other (text : String)
  deriving DecidableEq, Repr

/-- A client of GitHub. -/
abbrev ClientM (α : Type) := Client Request Response ProviderError α

/-- `value.get(key) or default`. -/
def getOr (value : Json.Value) (key : String) (default : Json.Value) : ClientM Json.Value :=
  match value with
  | .obj fields =>
    let found := (fields.lookup key).getD .null
    return if jsonTruthy found then found else default
  | _ => throw (.other "object has no attribute 'get'")

/-- The exception for an error response. -/
def responseError (what : String) (response : Response) : ProviderError :=
  .gitOps (s!"{what}: HTTP {response.statusCode} " ++ String.ofList (response.text.toList.take 200))

/-! ## The manifest -/

/-- `render_remediation_manifest`. -/
def renderRemediationManifest (py : PyRuntime) (request : GitOpsPullRequestRequest) : String :=
  let action := request.selectedAction
  let kind := orElse request.remediationKind action.kind.name
  let model := action.model.getD ""
  let backend := orElse (action.backend.getD "") "ollama"
  let payload : Json.Value := .obj [
    ("aiControlPlane", .obj [
      ("inventory", .obj [
        ("desiredAction", .str kind),
        ("models", .arr (if model = "" then [] else [.str model]))]),
      ("policy", .obj [
        ("quotaOnUnavailable", .str "approval_required"),
        ("verifySignature", .bool true)]),
      ("resources", .obj [
        ("limits", .obj [
          ("cpu", .str (if kind = "pull_model" then "500m" else "250m")),
          ("memory", .str (if kind = "pull_model" then "1Gi" else "512Mi"))]),
        ("replicas", .int (if kind = "pull_model" ∨ kind = "update_inventory" then 2 else 1))])]),
    ("remediation", .obj ([
      ("backend", .str backend),
      ("kind", .str kind)] ++
      (if model = "" then [] else [("model", .str model)]) ++ [
      ("proposal_id", .str request.proposalId),
      ("tenant_id", .str (orElse request.tenantId "platform"))]))]
  "# Generated by AI Infrastructure Control Plane remediation flow.\n" ++
    s!"# proposal_id: {request.proposalId}\n" ++
    String.ofList (Json.printIndented py.floats 0 payload) ++ "\n"

/-- The text of the `README.md`. -/
def renderNote (request : GitOpsPullRequestRequest) : String :=
  let tenant := orElse request.tenantId "n/a"
  let kind := orElse request.remediationKind "n/a"
  s!"# Remediation proposal `{request.proposalId}`\n\n" ++
    s!"- Tenant: `{tenant}`\n" ++
    s!"- Kind: `{kind}`\n\n" ++
    s!"{request.body}\n"

/-- The branch of a proposal. -/
def branchName (proposalId : String) : String := "remediation/" ++ proposalId

/-- The file of the manifest. -/
def manifestPath (proposalId : String) : String :=
  "remediation/proposals/" ++ proposalId ++ "/values.patch.yaml"

/-- The file of the note. -/
def notePath (proposalId : String) : String :=
  "remediation/proposals/" ++ proposalId ++ "/README.md"

/-! ## The requests -/

/-- `GitHubPullRequestProvider`. -/
structure GitHubPullRequestProvider where
  owner : String
  baseBranch : String
  draft : Bool

namespace GitHubPullRequestProvider

variable (py : PyRuntime) (self : GitHubPullRequestProvider)

/-- `_default_branch_sha`. -/
def defaultBranchSha : ClientM String := do
  let response ← Client.call (.getRef self.baseBranch)
  if 400 ≤ response.statusCode then
    throw (responseError s!"failed to resolve base branch {self.baseBranch}" response)
  else
    let object ← getOr response.json "object" (.obj [])
    let sha ← getOr object "sha" (.str "")
    if jsonTruthy sha then return py.strJson sha
    else throw (.gitOps "base branch SHA missing")

/-- `_ensure_branch`. -/
def ensureBranch (branch sha : String) : ClientM Unit := do
  let existing ← Client.call (.getRef branch)
  if existing.statusCode = 200 then return ()
  else
    let response ← Client.call (.createRef ("refs/heads/" ++ branch) sha)
    if 400 ≤ response.statusCode then
      throw (responseError s!"failed to create branch {branch}" response)
    else return ()

/-- The sha that `_put_file` sends along. -/
def currentSha (current : Response) : ClientM (Option String) :=
  if current.statusCode = 200 then do
    let sha ← getOr current.json "sha" .null
    return if jsonTruthy sha then some (py.strJson sha) else none
  else return none

/-- `_put_file`. -/
def putFile (path content branch message : String) : ClientM Unit := do
  let current ← Client.call (.getContents path branch)
  let sha ← currentSha py current
  let response ← Client.call (.putContents path message content branch sha)
  if 400 ≤ response.statusCode then
    throw (responseError s!"failed to commit remediation file {path}" response)
  else return ()

/-- `_find_open_pull_request`. -/
def findOpenPullRequest (head : String) : ClientM (Option Json.Value) := do
  let response ← Client.call (.listPulls "open" s!"{self.owner}:{head}" self.baseBranch)
  if 400 ≤ response.statusCode then
    throw (responseError "failed to list pull requests" response)
  else
    match response.json with
    | .arr (.obj fields :: _) => return some (.obj fields)
    | _ => return none

/-- What `_create_pull_request` does with a response that is not reused. -/
def openedPullRequest (response : Response) : ClientM Json.Value :=
  if 400 ≤ response.statusCode then
    throw (responseError "failed to create pull request" response)
  else
    match response.json with
    | .obj fields => return .obj fields
    | _ => throw (.gitOps "unexpected GitHub pulls response")

/-- `_create_pull_request`. -/
def createPullRequest (title body head : String) : ClientM Json.Value := do
  let response ← Client.call (.createPull title body head self.baseBranch self.draft)
  if response.statusCode = 422 then
    match ← self.findOpenPullRequest head with
    | some existing => return existing
    | none => openedPullRequest response
  else openedPullRequest response

/-- The result for a pull request. -/
def resultOf (pull : Json.Value) (created : Bool) (detail missing : String) :
    ClientM GitOpsPullRequestResult := do
  let htmlUrl ← getOr pull "html_url" (.str "")
  if py.strJson htmlUrl = "" then throw (.gitOps missing)
  else
    let head ← getOr pull "head" (.obj [])
    let sha ← getOr head "sha" (.str "")
    let draft := match pull with
      | .obj fields => (fields.lookup "draft").elim self.draft jsonTruthy
      | _ => self.draft
    return {
      prUrl := some (py.strJson htmlUrl), provider := "github", draft := draft
      created := created, detail := detail, headSha := py.strJson sha }

/-- `create_draft_pull_request`, without the handling of exceptions. -/
def requestPullRequest (request : GitOpsPullRequestRequest) :
    ClientM GitOpsPullRequestResult := do
  let branch := branchName request.proposalId
  let existing ← self.findOpenPullRequest branch
  let sha ← self.defaultBranchSha py
  ensureBranch branch sha
  putFile py (manifestPath request.proposalId) (renderRemediationManifest py request) branch
    s!"fix: remediation manifest for {request.proposalId}"
  putFile py (notePath request.proposalId) (renderNote request) branch
    s!"docs: remediation note for {request.proposalId}"
  match existing with
  | some pull =>
    self.resultOf py pull false "reused existing open pull request"
      "existing pull request missing html_url"
  | none =>
    let pull ← self.createPullRequest request.title request.body branch
    self.resultOf py pull true "draft pull request created"
      "GitHub pull request missing html_url"

/-- The handling of exceptions. -/
def wrapError : ProviderError → ProviderError
  | .http text => .gitOps s!"GitHub API request failed: {text}"
  | e => e

/-- `create_draft_pull_request`. -/
def createDraftPullRequest (request : GitOpsPullRequestRequest) :
    ClientM GitOpsPullRequestResult :=
  (self.requestPullRequest py request).handle fun e => throw (wrapError e)

end GitHubPullRequestProvider

end ControlPlane.GitOps

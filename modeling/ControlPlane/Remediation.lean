/-
# Remediation proposals (`app/remediation_service.py`)

A proposal is opened for an inventory drift, evaluated against the policy, resolved by a
reviewer when the policy asks for approval, and then goes through a pull request, its
application and its verification.  Every operation reads the proposal, checks its status, and
updates it in a session of its own.
-/
import ControlPlane.GovernanceRouter
import ControlPlane.Store.Proposals

namespace ControlPlane

open Transaction

namespace Remediation

/-! ## The lifecycle -/

/-- `_TERMINAL`. -/
def terminal : List RemediationStatus := [.rejected, .verified, .failed]

/-- `_ALLOWED`. -/
def allowed : RemediationStatus → List RemediationStatus
  | .detected => [.proposed]
  | .proposed => [.policyEvaluated]
  | .policyEvaluated => [.approved, .rejected]
  | .approved => [.prCreated]
  | .prCreated => [.applied]
  | .applied => [.verifying, .verified, .failed]
  | .verifying => [.verified, .failed]
  | _ => []

/-- `_require_transition`; a `RemediationError` is a `ValueError`. -/
def requireTransition (current target : RemediationStatus) : Except PyError Unit :=
  if target ∈ allowed current then .ok ()
  else .error (.valueError
    s!"cannot transition remediation from {current.name} to {target.name}")

/-- The actions that a proposal can be opened for. -/
def actionable (status : DriftStatus) : List DriftSuggestedAction :=
  (buildDriftActions status).filter (fun a => a.kind ≠ .openGithubIssue)

/-- `_select_action`. -/
def selectAction (status : DriftStatus) (actionIndex : Option ℤ) (actionKind : Option String) :
    Except PyError DriftSuggestedAction :=
  let items := actionable status
  match items with
  | [] => .error (.valueError "no actionable drift remediations available")
  | first :: _ =>
    match actionIndex with
    | some i =>
      if i < 0 then .error (.valueError "action_index out of range")
      else match items[i.toNat]? with
        | some item => .ok item
        | none => .error (.valueError "action_index out of range")
    | none =>
      let kind := actionKind.getD ""
      if kind ≠ "" then
        match items.find? (fun a => a.kind.name = kind) with
        | some item => .ok item
        | none => .error (.valueError s!"no remediation action with kind={kind}")
      else
        -- concrete model remediations come before the generic helpers
        .ok (([.pullModel, .updateInventory, .reprobe, .openGithubPr].findSome?
          (fun kind => items.find? (fun a => a.kind = kind))).getD first)

/-- `get_remediation_proposal`, and the `KeyError` of a missing proposal. -/
def load (proposalId : String) (tenantId : Option String) : StoreM RemediationProposalRow := do
  let record ← getRemediationProposal proposalId tenantId
  match record with
  | some record => return record
  | none => throw (.keyError proposalId)

/-- `create_from_drift`. -/
def createFromDrift (tenantId : String) (actionIndex : Option ℤ) (actionKind : Option String)
    (status : DriftStatus) (proposalId : String) (now : Instant) :
    StoreM RemediationProposalRow :=
  if status.inSync then throw (.valueError "inventory is in sync; no remediation needed")
  else do
    let action ← Prog.done (selectAction status actionIndex actionKind)
    let proposalId ← createRemediationProposal {
      tenantId := orElse tenantId "platform"
      status := .proposed
      source := "inventory_drift"
      remediationKind := action.kind.name
      driftSnapshot := status
      selectedAction := action } proposalId now
    let record ← getRemediationProposal proposalId none
    match record with
    | some record => return record
    | none => throw (.runtimeError "assertion failed")

/-! ## Policy -/

/-- The request that is evaluated for a proposal. -/
def policyRequest (record : RemediationProposalRow) (environment : String)
    (team : Option String) : GovernanceEvaluateRequest where
  team := firstNonempty [team.getD "", record.tenantId, "platform"]
  tenantId := firstNonempty [record.tenantId, team.getD "", "platform"]
  owner := "remediation-bot"
  subject := "remediation-bot"
  environment := environment
  action := "remediate_inventory"
  model := orElse (record.selectedAction.model.getD "") "inventory-remediation"
  provider := orElse (record.selectedAction.backend.getD "") "ollama"
  toolAccess := true
  writePermission := true
  promptText := s!"Remediate inventory drift via {record.remediationKind}: " ++
    record.selectedAction.title

/-- The status after a verdict. -/
def statusOf : Verdict → RemediationStatus
  | .allow => .approved
  | .block => .rejected
  | .approvalRequired => .policyEvaluated

/-- `evaluate_policy`. -/
def evaluatePolicy (server : Server) (process : PolicyProcess) (proposalId : String)
    (tenantId : Option String) (environment : String) (team : Option String) (draws : Draws)
    (clock : ℕ → Instant) : StoreM RemediationProposalRow := do
  let record ← load proposalId tenantId
  Prog.done (requireTransition record.status .policyEvaluated)
  let request := policyRequest record environment team
  let result ← server.evaluateSynced process none request
  let persisted ← persistEvaluation server.py server.sha256 result request
    { draws with requestId := s!"remediation-{proposalId}-{draws.requestId}" }
    server.approvalTtlSeconds clock
  updateRemediationProposal proposalId {
    status := some (statusOf persisted.finalVerdict)
    decisionId := persisted.decisionId
    approvalId := persisted.approvalId
    policyVerdict := some persisted.finalVerdict } (clock 4)

/-! ## Resolution -/

/-- The approval of a proposal is resolved, and the resolution is audited. -/
def resolveLinked (py : PyRuntime) (record : RemediationProposalRow) (approved : Bool)
    (reviewer comment eventId : String) (clock : ℕ → Instant) : StoreM Unit :=
  let approvalId := record.approvalId.getD ""
  if approvalId = "" then return ()
  else do
    let _ ← resolveApproval py approvalId (if approved then .approved else .rejected) reviewer
      comment none true clock
    if record.decisionId.getD "" = "" then return ()
    else
      let _ ← appendAuditMeta (record.decisionId.getD "") "remediation_resolved" reviewer
        [("proposal_id", .str record.proposalId),
          ("status", .str (if approved then "approved" else "rejected")),
          ("comment", .str comment)] eventId (clock 3) false
      return ()

/-- `resolve_proposal`. -/
def resolveProposal (py : PyRuntime) (proposalId : String) (approved : Bool)
    (reviewer comment : String) (tenantId : Option String) (eventId : String)
    (clock : ℕ → Instant) : StoreM RemediationProposalRow := do
  let record ← load proposalId tenantId
  let target : RemediationStatus := if approved then .approved else .rejected
  Prog.done (requireTransition record.status target)
  resolveLinked py record approved reviewer comment eventId clock
  updateRemediationProposal proposalId { status := some target } (clock 4)

/-! ## The pull request -/

/-- What the GitOps provider is asked for. -/
structure GitOpsPullRequestRequest where
  proposalId : String
  title : String
  body : String
  tenantId : String
  remediationKind : String
  selectedAction : DriftSuggestedAction

/-- The title of the pull request. -/
def prTitle (record : RemediationProposalRow) : String :=
  let prAction := (buildDriftActions record.driftSnapshot).find? (fun a => a.kind = .openGithubPr)
  firstNonempty [record.selectedAction.prTitle.getD "",
    (prAction.bind DriftSuggestedAction.prTitle).getD "",
    s!"fix: remediate inventory drift ({record.remediationKind})"]

/-- The body of the pull request. -/
def prBody (record : RemediationProposalRow) : String :=
  let prAction := (buildDriftActions record.driftSnapshot).find? (fun a => a.kind = .openGithubPr)
  firstNonempty [record.selectedAction.prBody.getD "",
    (prAction.bind DriftSuggestedAction.prBody).getD "",
    "## Why\n\n" ++ s!"{record.driftSnapshot.summary}\n\n" ++
    s!"Selected action: {record.selectedAction.title}\n\n" ++ "## Validation\n\n" ++
    "- [ ] `GET /drift` returns `in_sync: true`\n" ++
    s!"- [ ] Remediation proposal `{record.proposalId}` reaches `verified`\n"]

/-- The URL of the draft: the given one, else the provider's answer (the error is the text of
its `GitOpsProviderError`). -/
def draftUrl (gitops : GitOpsPullRequestRequest → Except String (Option String))
    (record : RemediationProposalRow) (prUrl : Option String) : StoreM String :=
  let given := strip (prUrl.getD "")
  if given ≠ "" then return given
  else do
    pythonStep
    match gitops {
        proposalId := record.proposalId, title := prTitle record, body := prBody record
        tenantId := record.tenantId, remediationKind := record.remediationKind
        selectedAction := record.selectedAction } with
    | .ok url => return strip (url.getD "")
    | .error text => throw (.valueError text)

/-- `prepare_pr_draft`. -/
def preparePrDraft (gitops : GitOpsPullRequestRequest → Except String (Option String))
    (proposalId : String) (tenantId prUrl : Option String) (now : Instant) :
    StoreM RemediationProposalRow := do
  let record ← load proposalId tenantId
  Prog.done (requireTransition record.status .prCreated)
  let url ← draftUrl gitops record prUrl
  updateRemediationProposal proposalId {
    status := some .prCreated
    prTitle := some (prTitle record)
    prBody := some (prBody record)
    prUrl := some url } now

/-- `mark_applied`. -/
def markApplied (proposalId : String) (tenantId prUrl : Option String) (clock : ℕ → Instant) :
    StoreM RemediationProposalRow := do
  let record ← load proposalId tenantId
  Prog.done (requireTransition record.status .applied)
  updateRemediationProposal proposalId {
    status := some .applied
    appliedAt := some (Timestamp.isoformat (clock 0))
    prUrl := prUrl } (clock 1)

/-! ## Verification -/

/-- The proposal is being verified from now on, or it was before. -/
def beginVerifying (record : RemediationProposalRow) (now : Instant) : StoreM Unit :=
  if record.status = .applied then do
    Prog.done (requireTransition record.status .verifying)
    let _ ← updateRemediationProposal record.proposalId { status := some .verifying } now
    return ()
  else if record.status ≠ .verifying then Prog.done (requireTransition record.status .verified)
  else return ()

/-- Why a verification failed. -/
def failureReason (snapshot : RuntimeVerificationSnapshot) : String :=
  firstNonempty [
    ((snapshot.checks.find? (fun c => c.status = .fail)).map VerificationCheck.detail).getD "",
    snapshot.inventory.summary, "runtime verification failed"]

/-- The update that a snapshot leads to. -/
def verdictOf (snapshot : RuntimeVerificationSnapshot) : ProposalUpdate :=
  match snapshot.outcome with
  | .verified => {
      status := some .verified
      verificationSnapshot := some snapshot
      failureReason := some "" }
  | .failed => {
      status := some .failed
      verificationSnapshot := some snapshot
      failureReason := some (failureReason snapshot) }

/-- `verify_runtime`; `inventory` is the given drift, or what fresh probes report. -/
def verifyRuntime (proposalId : String) (tenantId : Option String) (inventory : DriftStatus)
    (probeFresh : Bool) (clock : ℕ → Instant) : StoreM RemediationProposalRow := do
  let record ← load proposalId tenantId
  beginVerifying record (clock 0)
  pythonStep
  let snapshot := buildVerificationSnapshot proposalId inventory record.driftSnapshot probeFresh
    (Timestamp.isoformat (clock 1))
  updateRemediationProposal proposalId (verdictOf snapshot) (clock 2)

end Remediation

end ControlPlane

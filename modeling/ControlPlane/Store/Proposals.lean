/-
# Remediation proposals in the store (`app/decision_store.py`)

The methods that create, read and update a remediation proposal.  New ids and the readings of
the clock are arguments.
-/
import ControlPlane.Store.Schema

namespace ControlPlane

open Transaction

/-- What `create_remediation_proposal` is given about a proposal. -/
structure NewProposal where
  tenantId : String
  status : RemediationStatus
  source : String
  remediationKind : String
  driftSnapshot : DriftStatus
  selectedAction : DriftSuggestedAction

/-- The row that `create_remediation_proposal` inserts. -/
def NewProposal.row (new : NewProposal) (proposalId : String) (now : Instant) :
    RemediationProposalRow where
  proposalId := proposalId
  tenantId := new.tenantId
  status := new.status
  source := new.source
  remediationKind := new.remediationKind
  driftSnapshot := new.driftSnapshot
  selectedAction := new.selectedAction
  decisionId := none
  approvalId := none
  policyVerdict := none
  prTitle := none
  prBody := none
  prUrl := none
  appliedAt := none
  verificationSnapshot := none
  failureReason := none
  createdAt := Timestamp.isoformat now
  updatedAt := Timestamp.isoformat now

/-- `create_remediation_proposal`. -/
def createRemediationProposal (new : NewProposal) (proposalId : String) (now : Instant) :
    StoreM String := do
  onConnection false (insert (.proposal (new.row proposalId now)))
  return proposalId

/-- The proposal with a given id. -/
def findProposal (rows : List Row) (proposalId : String) : Option RemediationProposalRow :=
  (proposals rows).find? (fun r => r.proposalId = proposalId)

/-- `get_remediation_proposal`; with a tenant only a proposal of its own is found. -/
def getRemediationProposal (proposalId : String) (tenantId : Option String) :
    StoreM (Option RemediationProposalRow) := do
  let rows ← session fetchAll
  match findProposal rows proposalId with
  | none => return none
  | some record =>
    if tenantId.any (fun t => record.tenantId ≠ t) then return none else return some record

/-- The columns that `update_remediation_proposal` is given; the others stay as they are. -/
structure ProposalUpdate where
  status : Option RemediationStatus := none
  remediationKind : Option String := none
  selectedAction : Option DriftSuggestedAction := none
  decisionId : Option String := none
  approvalId : Option String := none
  policyVerdict : Option Verdict := none
  prTitle : Option String := none
  prBody : Option String := none
  prUrl : Option String := none
  appliedAt : Option String := none
  verificationSnapshot : Option RuntimeVerificationSnapshot := none
  failureReason : Option String := none

/-- A proposal after an update. -/
def ProposalUpdate.set (u : ProposalUpdate) (now : String) (r : RemediationProposalRow) :
    RemediationProposalRow :=
  { r with
    updatedAt := now
    status := u.status.getD r.status
    remediationKind := u.remediationKind.getD r.remediationKind
    selectedAction := u.selectedAction.getD r.selectedAction
    decisionId := u.decisionId <|> r.decisionId
    approvalId := u.approvalId <|> r.approvalId
    policyVerdict := u.policyVerdict <|> r.policyVerdict
    prTitle := u.prTitle <|> r.prTitle
    prBody := u.prBody <|> r.prBody
    prUrl := u.prUrl <|> r.prUrl
    appliedAt := u.appliedAt <|> r.appliedAt
    verificationSnapshot := u.verificationSnapshot <|> r.verificationSnapshot
    failureReason := u.failureReason <|> r.failureReason }

/-- `UPDATE remediation_proposals SET … WHERE proposal_id = ?`. -/
def updateProposalChange (proposalId : String) (u : ProposalUpdate) (now : String) :
    Change Row where
  guard
    | .proposal r => r.proposalId = proposalId
    | _ => false
  set
    | .proposal r => some (.proposal (u.set now r))
    | row => some row

/-- The session of `update_remediation_proposal`. -/
def updateProposalInSession (proposalId : String) (u : ProposalUpdate) (now : String) :
    StoreM RemediationProposalRow := do
  let count ← execute (updateProposalChange proposalId u now)
  if count ≠ 1 then throw (.keyError s!"remediation proposal not found: {proposalId}")
  else
    let rows ← fetchAll
    match findProposal rows proposalId with
    | some r => return r
    | none => throw (.runtimeError "assertion failed")

/-- `update_remediation_proposal`: the fields that are given replace those of the row. -/
def updateRemediationProposal (proposalId : String) (u : ProposalUpdate) (now : Instant) :
    StoreM RemediationProposalRow :=
  onConnection false (updateProposalInSession proposalId u (Timestamp.isoformat now))

end ControlPlane

/-
# The statements of the remediation operations

The counterpart of `Store.Statements` for `app/remediation_service.py`: a property of
statements that holds of those without a write and of the few updates and insertions of an
operation holds of every statement that the operation can issue.
-/
import ControlPlane.Remediation
import ControlPlane.Store.Statements

namespace ControlPlane.Remediation

open Transaction

-- the branches on a stripped URL are not evaluated
attribute [local irreducible] strip

variable {P : Stmt Row → Prop} [Prog.Quiet P] {server : Server} {py : PyRuntime}
  {proposalId : String} {tenantId : Option String} {clock : ℕ → Instant}

theorem issues_getRemediationProposal :
    (getRemediationProposal proposalId tenantId).Issues P := by
  refine Prog.issues_bind (issues_session issues_fetchAll) (fun rows => ?_)
  split
  · trivial
  · split <;> trivial

theorem issues_load : (load proposalId tenantId).Issues P :=
  Prog.issues_bind issues_getRemediationProposal (fun record => by cases record <;> trivial)

theorem issues_updateRemediationProposal {u : ProposalUpdate} {now : Instant}
    (h : P (.change (updateProposalChange proposalId u (Timestamp.isoformat now)))) :
    (updateRemediationProposal proposalId u now).Issues P := by
  refine issues_onConnection (Prog.issues_bind (issues_execute h) (fun count => ?_))
  split
  · trivial
  · refine Prog.issues_bind issues_fetchAll (fun rows => ?_)
    split <;> trivial

theorem issues_createFromDrift {tenantId : String} {actionIndex : Option ℤ}
    {actionKind : Option String} {status : DriftStatus} {now : Instant}
    (h : ∀ new : NewProposal, new.status = .proposed →
      P (.insert (.proposal (new.row proposalId now)))) :
    (createFromDrift tenantId actionIndex actionKind status proposalId now).Issues P := by
  unfold createFromDrift
  split
  · trivial
  refine Prog.issues_bind (issues_done _) (fun action => ?_)
  refine Prog.issues_bind ?_ (fun id => ?_)
  · exact Prog.issues_bind (issues_onConnection (issues_insert (h _ rfl))) (fun _ => trivial)
  · refine Prog.issues_bind issues_getRemediationProposal (fun record => ?_)
    split <;> trivial

theorem issues_evaluateSynced (process : PolicyProcess)
    (telemetry : Option GovernanceTelemetryStage) (payload : GovernanceEvaluateRequest) :
    (server.evaluateSynced process telemetry payload).Issues P := by
  unfold Server.evaluateSynced syncActiveFromStore
  refine Prog.issues_bind (Prog.issues_bind (Prog.issues_handle ?_ (fun _ => trivial))
    (fun _ => trivial)) (fun synced => ?_)
  · exact Prog.issues_bind (issues_session issues_fetchAll) (fun _ => trivial)
  · refine Prog.issues_bind (issues_done _) (fun stages => ?_)
    exact Prog.issues_bind issues_currentDigests (fun digests => trivial)

theorem issues_evaluatePolicy {process : PolicyProcess} {environment : String}
    {team : Option String} {draws : Draws}
    (hdecision : ∀ new now, P (.insert (.decision (NewDecision.row new draws.decisionId now))))
    (happroval : ∀ now, P (.insert (.approval (newApproval draws.decisionId
      server.approvalTtlSeconds draws.approvalId now))))
    (haudit : ∀ m : AuditMetaRow, P (.insert (.auditMeta m)))
    (hupdate : ∀ (u : ProposalUpdate) now, P (.change (updateProposalChange proposalId u now))) :
    (evaluatePolicy server process proposalId tenantId environment team draws clock).Issues P := by
  refine Prog.issues_bind issues_load (fun record => ?_)
  refine Prog.issues_bind (issues_done _) (fun _ => ?_)
  refine Prog.issues_bind (issues_evaluateSynced _ _ _) (fun result => ?_)
  refine Prog.issues_bind (issues_persistEvaluation (fun _ => hdecision _ _) (happroval _)
    (fun m _ => haudit m)) (fun persisted => ?_)
  exact issues_updateRemediationProposal (hupdate _ _)

theorem issues_resolveLinked {record : RemediationProposalRow} {approved : Bool}
    {reviewer comment eventId : String}
    (hexpire : ∀ approvalId now, P (.change (expireChange approvalId now)))
    (hresolve : ∀ approvalId now, P (.change (resolveChange approvalId
      (if approved then .approved else .rejected) reviewer comment now)))
    (haudit : ∀ m : AuditMetaRow, P (.insert (.auditMeta m))) :
    (resolveLinked py record approved reviewer comment eventId clock).Issues P := by
  unfold resolveLinked
  dsimp only
  split
  · trivial
  refine Prog.issues_bind (issues_resolveApproval (hexpire _) (fun _ => hresolve _))
    (fun _ => ?_)
  split
  · trivial
  · exact Prog.issues_bind (issues_appendAuditMeta (haudit _)) (fun _ => trivial)

theorem issues_resolveProposal {approved : Bool} {reviewer comment eventId : String}
    (hexpire : ∀ approvalId now, P (.change (expireChange approvalId now)))
    (hresolve : ∀ approvalId now, P (.change (resolveChange approvalId
      (if approved then .approved else .rejected) reviewer comment now)))
    (haudit : ∀ m : AuditMetaRow, P (.insert (.auditMeta m)))
    (hupdate : ∀ (u : ProposalUpdate) now, P (.change (updateProposalChange proposalId u now))) :
    (resolveProposal py proposalId approved reviewer comment tenantId eventId clock).Issues P := by
  refine Prog.issues_bind issues_load (fun record => ?_)
  refine Prog.issues_bind (issues_done _) (fun _ => ?_)
  refine Prog.issues_bind (issues_resolveLinked hexpire hresolve haudit) (fun _ => ?_)
  exact issues_updateRemediationProposal (hupdate _ _)

theorem issues_draftUrl {gitops : GitOpsPullRequestRequest → Except String (Option String)}
    {record : RemediationProposalRow} {prUrl : Option String} :
    (draftUrl gitops record prUrl).Issues P := by
  unfold draftUrl
  dsimp only
  split
  · trivial
  · refine Prog.issues_bind issues_pythonStep (fun _ => ?_)
    split <;> trivial

theorem issues_preparePrDraft
    {gitops : GitOpsPullRequestRequest → Except String (Option String)} {prUrl : Option String}
    {now : Instant}
    (hupdate : ∀ (u : ProposalUpdate) now, P (.change (updateProposalChange proposalId u now))) :
    (preparePrDraft gitops proposalId tenantId prUrl now).Issues P := by
  refine Prog.issues_bind issues_load (fun record => ?_)
  refine Prog.issues_bind (issues_done _) (fun _ => ?_)
  refine Prog.issues_bind issues_draftUrl (fun url => ?_)
  exact issues_updateRemediationProposal (hupdate _ _)

theorem issues_markApplied {prUrl : Option String}
    (hupdate : ∀ (u : ProposalUpdate) now, P (.change (updateProposalChange proposalId u now))) :
    (markApplied proposalId tenantId prUrl clock).Issues P := by
  refine Prog.issues_bind issues_load (fun record => ?_)
  refine Prog.issues_bind (issues_done _) (fun _ => ?_)
  exact issues_updateRemediationProposal (hupdate _ _)

theorem issues_beginVerifying {record : RemediationProposalRow} {now : Instant}
    (hupdate : ∀ (u : ProposalUpdate) now,
      P (.change (updateProposalChange record.proposalId u now))) :
    (beginVerifying record now).Issues P := by
  unfold beginVerifying
  split
  · refine Prog.issues_bind (issues_done _) (fun _ => ?_)
    exact Prog.issues_bind (issues_updateRemediationProposal (hupdate _ _)) (fun _ => trivial)
  · split
    · exact issues_done _
    · trivial

theorem issues_verifyRuntime {inventory : DriftStatus} {probeFresh : Bool}
    (hupdate : ∀ proposalId (u : ProposalUpdate) now,
      P (.change (updateProposalChange proposalId u now))) :
    (verifyRuntime proposalId tenantId inventory probeFresh clock).Issues P := by
  refine Prog.issues_bind issues_load (fun record => ?_)
  refine Prog.issues_bind (issues_beginVerifying (hupdate _)) (fun _ => ?_)
  refine Prog.issues_bind issues_pythonStep (fun _ => ?_)
  exact issues_updateRemediationProposal (hupdate _ _ _)

end ControlPlane.Remediation

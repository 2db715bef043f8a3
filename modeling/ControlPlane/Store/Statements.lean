/-
# The statements that the methods issue

A property of statements that holds of those without a write and of the few updates and
insertions of a method holds of every statement that the method can issue, whatever the
store answers.  Every invariant of the store is an instance.
-/
import ControlPlane.DurableGovernance
import ControlPlane.Store.Rules

namespace ControlPlane

open Transaction

-- the branches on a stripped agent name are not evaluated
attribute [local irreducible] strip

variable {P : Stmt Row → Prop} [Prog.Quiet P]

/-! ## Decisions and audit rows -/

theorem issues_createDecision {new : NewDecision} {decisionId : String} {now : Instant}
    {conn : Bool} (h : P (.insert (.decision (new.row decisionId now)))) :
    (createDecision new decisionId now conn).Issues P :=
  Prog.issues_bind (issues_onConnection (issues_insert h)) (fun _ => trivial)

theorem issues_getDecision (decisionId : String) (tenantId : Option String) :
    (getDecision decisionId tenantId).Issues P := by
  refine Prog.issues_bind (issues_session issues_fetchAll) (fun rows => ?_)
  split
  · trivial
  · split <;> trivial

theorem issues_appendAuditMeta {decisionId eventType actor eventId : String}
    {payload : List (String × Json.Value)} {now : Instant} {conn : Bool}
    (h : P (.insert (.auditMeta {
      eventId := eventId, decisionId := decisionId, eventType := eventType, actor := actor,
      payload := payload, createdAt := Timestamp.isoformat now }))) :
    (appendAuditMeta decisionId eventType actor payload eventId now conn).Issues P :=
  Prog.issues_bind (issues_onConnection (issues_insert h)) (fun _ => trivial)

/-! ## Approvals -/

theorem issues_createApproval {decisionId approvalId : String} {ttlSeconds : ℤ} {now : Instant}
    {conn : Bool} (h : P (.insert (.approval (newApproval decisionId ttlSeconds approvalId now)))) :
    (createApproval decisionId ttlSeconds approvalId now conn).Issues P :=
  Prog.issues_bind (issues_onConnection (issues_insert h)) (fun _ => trivial)

theorem issues_expireIfNeeded {approvalId : String} {clock : ℕ → Instant}
    (h : ∀ now, P (.change (expireChange approvalId now))) :
    (expireIfNeeded approvalId clock).Issues P := by
  refine Prog.issues_bind issues_fetchAll (fun rows => ?_)
  split
  · trivial
  · split
    · trivial
    · refine Prog.issues_bind (issues_done _) (fun expired => ?_)
      split
      · exact Prog.issues_bind (issues_execute (h _)) (fun _ => issues_commit)
      · trivial

theorem issues_expireStale {now : Instant} {doCommit : Bool}
    (h : P (.change (expireStaleChange (Timestamp.isoformat now)))) :
    (expireStale now doCommit).Issues P := by
  refine Prog.issues_bind (issues_execute h) (fun count => ?_)
  cases doCommit with
  | false => trivial
  | true => exact Prog.issues_bind issues_commit (fun _ => trivial)

theorem issues_getApproval {approvalId : String} {tenantId : Option String}
    {clock : ℕ → Instant} (h : ∀ now, P (.change (expireChange approvalId now))) :
    (getApproval approvalId tenantId clock).Issues P := by
  refine issues_session (Prog.issues_bind (issues_expireIfNeeded h) (fun _ => ?_))
  refine Prog.issues_bind issues_fetchAll (fun rows => ?_)
  split
  · trivial
  · split
    · trivial
    · refine Prog.issues_bind issues_fetchAll (fun rows => ?_)
      split
      · trivial
      · split <;> trivial

theorem issues_listApprovals {status : String} {limit offset : ℤ} {tenantId : Option String}
    {now : Instant} (h : P (.change (expireStaleChange (Timestamp.isoformat now)))) :
    (listApprovals status limit offset tenantId now).Issues P := by
  refine issues_session (Prog.issues_bind (issues_expireStale h) (fun _ => ?_))
  exact Prog.issues_bind issues_fetchAll (fun _ => Prog.issues_bind issues_fetchAll
    (fun _ => trivial))

theorem issues_countApprovals {status : String} {now : Instant}
    (h : P (.change (expireStaleChange (Timestamp.isoformat now)))) :
    (countApprovals status now).Issues P := by
  refine issues_session (Prog.issues_bind (issues_expireStale h) (fun _ => ?_))
  exact Prog.issues_bind issues_fetchAll (fun _ => trivial)

theorem issues_expireStaleApprovals {now : Instant}
    (h : P (.change (expireStaleChange (Timestamp.isoformat now)))) :
    (expireStaleApprovals now).Issues P :=
  issues_session (issues_expireStale h)

theorem issues_resolveApproval {py : PyRuntime} {approvalId : String} {status : ApprovalStatus}
    {reviewer comment : String} {tenantId : Option String} {forbidSelfApproval : Bool}
    {clock : ℕ → Instant} (hexpire : ∀ now, P (.change (expireChange approvalId now)))
    (hresolve : status = .approved ∨ status = .rejected →
      ∀ now, P (.change (resolveChange approvalId status reviewer comment now))) :
    (resolveApproval py approvalId status reviewer comment tenantId forbidSelfApproval
      clock).Issues P := by
  unfold resolveApproval
  split
  · trivial
  · rename_i hs
    have hs' : status = .approved ∨ status = .rejected := by
      by_contra hne
      exact hs (not_or.mp hne)
    refine Prog.issues_bind (issues_session ?_) (fun updated => by split <;> trivial)
    refine Prog.issues_bind (issues_expireIfNeeded hexpire) (fun _ => ?_)
    refine Prog.issues_bind issues_fetchAll (fun rows => ?_)
    split
    · trivial
    · refine Prog.issues_bind (issues_done _) (fun _ => ?_)
      refine Prog.issues_bind (issues_execute (hresolve hs' _)) (fun count => ?_)
      split
      · trivial
      · refine Prog.issues_bind issues_commit (fun _ => ?_)
        exact Prog.issues_bind issues_fetchAll (fun _ => trivial)

theorem issues_consumeApproval {approvalId : String} {now : Instant} {conn : Bool}
    (h : P (.change (consumeChange approvalId (Timestamp.isoformat now)))) :
    (consumeApproval approvalId now conn).Issues P :=
  Prog.issues_bind (issues_onConnection (issues_execute h)) (fun _ => trivial)

theorem issues_consumeAndAudit {approvalId decisionId actor requestDigest eventId : String}
    {clock : ℕ → Instant}
    (hconsume : P (.change (consumeChange approvalId (Timestamp.isoformat (clock 0)))))
    (haudit : P (.insert (.auditMeta {
      eventId := eventId, decisionId := decisionId, eventType := "approval_consumed"
      actor := actor
      payload := [("approval_id", .str approvalId), ("request_digest", .str requestDigest)]
      createdAt := Timestamp.isoformat (clock 1) }))) :
    (consumeAndAudit approvalId decisionId actor requestDigest eventId clock).Issues P := by
  refine issues_transaction (Prog.issues_bind (issues_consumeApproval hconsume)
    (fun consumed => ?_))
  split
  · trivial
  · exact Prog.issues_bind (issues_appendAuditMeta haudit) (fun _ => trivial)

omit [Prog.Quiet P] in
theorem issues_deleteRetained {dryRun : Bool} {ids : List String}
    (haudit : P (.change (deleteAuditMeta ids))) (happroval : P (.change (deleteApprovals ids)))
    (hdecision : P (.change (deleteDecisions ids))) : (deleteRetained dryRun ids).Issues P := by
  unfold deleteRetained
  split
  · trivial
  · refine Prog.issues_bind (issues_execute haudit) (fun _ => ?_)
    refine Prog.issues_bind (issues_execute happroval) (fun _ => ?_)
    exact Prog.issues_bind (issues_execute hdecision) (fun _ => trivial)

theorem issues_purgeRetained {retentionDays : ℤ} {dryRun : Bool} {limit : ℤ}
    {clock : ℕ → Instant} (hexpire : P (.change (expireStaleChange (Timestamp.isoformat (clock 1)))))
    (haudit : ∀ ids, P (.change (deleteAuditMeta ids)))
    (happroval : ∀ ids, P (.change (deleteApprovals ids)))
    (hdecision : ∀ ids, P (.change (deleteDecisions ids))) :
    (purgeRetained retentionDays dryRun limit clock).Issues P := by
  unfold purgeRetained
  split
  · trivial
  split
  · trivial
  refine issues_transaction (Prog.issues_bind (issues_expireStale hexpire) (fun expired => ?_))
  split
  · trivial
  refine Prog.issues_bind issues_fetchAll (fun rows => ?_)
  dsimp only
  split
  · trivial
  refine Prog.issues_bind issues_fetchAll (fun audits => ?_)
  refine Prog.issues_bind issues_fetchAll (fun approved => ?_)
  exact Prog.issues_bind (issues_deleteRetained (haudit _) (happroval _) (hdecision _))
    (fun _ => trivial)

/-! ## Evaluations -/

section Evaluations

variable {py : PyRuntime} {sha256 : String → String} {request : GovernanceEvaluateRequest}

theorem issues_listCapabilityContracts (f : ContractFilter) (limit offset : ℤ) :
    (listCapabilityContracts f limit offset).Issues P :=
  issues_session (Prog.issues_bind issues_fetchAll (fun _ => Prog.issues_bind issues_fetchAll
    (fun _ => trivial)))

theorem issues_currentDigests : (currentDigests py sha256 request).Issues P := by
  have hcontract : ∀ agent tenant, (findAgentContract agent tenant).Issues P := by
    intro agent tenant
    unfold findAgentContract
    split
    · trivial
    · exact Prog.issues_bind (issues_listCapabilityContracts _ _ _) (fun _ => trivial)
  unfold currentDigests resolveExecutionCapabilityDigests
  refine Prog.issues_bind (hcontract _ _) (fun contract => ?_)
  refine Prog.issues_bind ?_ (fun tools => trivial)
  exact Prog.issues_bind (issues_listCapabilityContracts _ _ _) (fun _ => trivial)

/-- The statements of `persist_evaluation`: a decision, perhaps an approval, audit rows. -/
theorem issues_persistEvaluation {result : GovernanceEvaluateResponse} {draws : Draws}
    {ttlSeconds : ℤ} {clock : ℕ → Instant}
    (hdecision : ∀ digests, P (.insert (.decision ((newDecision py sha256 result request
      draws.requestId digests).row draws.decisionId (clock 0)))))
    (happroval : P (.insert (.approval
      (newApproval draws.decisionId ttlSeconds draws.approvalId (clock 1)))))
    (haudit : ∀ m : AuditMetaRow, m.eventType ∈ ["approval_created", "decision_recorded"] →
      P (.insert (.auditMeta m))) :
    (persistEvaluation py sha256 result request draws ttlSeconds clock).Issues P := by
  have hdigests : (pinnedDigests py sha256 result request).Issues P := by
    unfold pinnedDigests
    dsimp only
    split
    · exact issues_currentDigests
    · trivial
  have hrequest : (requestApproval py sha256 result request draws ttlSeconds clock).Issues P := by
    unfold requestApproval
    split
    · refine Prog.issues_bind (issues_createApproval happroval) (fun approvalId => ?_)
      exact Prog.issues_bind (issues_appendAuditMeta (haudit _ (by simp))) (fun _ => trivial)
    · trivial
  unfold persistEvaluation
  refine Prog.issues_bind hdigests (fun digests => ?_)
  refine Prog.issues_bind (issues_transaction ?_) (fun approvalId => trivial)
  refine Prog.issues_bind (issues_createDecision (hdecision digests)) (fun decisionId => ?_)
  refine Prog.issues_bind hrequest (fun approvalId => ?_)
  exact Prog.issues_bind (issues_appendAuditMeta (haudit _ (by simp))) (fun _ => trivial)

/-- The statements of a redemption: the approval may expire or be consumed, with an audit row. -/
theorem issues_approvalGrantsAllow {approvalId policyDigest consumedEvent : String}
    {clock : ℕ → Instant} (hexpire : ∀ now, P (.change (expireChange approvalId now)))
    (hconsume : ∀ now, P (.change (consumeChange approvalId now)))
    (haudit : ∀ m : AuditMetaRow, m.eventType = "approval_consumed" → P (.insert (.auditMeta m))) :
    (approvalGrantsAllow py sha256 approvalId request policyDigest consumedEvent clock).Issues
      P := by
  unfold approvalGrantsAllow
  refine Prog.issues_bind (issues_getApproval hexpire) (fun approval => ?_)
  unfold redeemApproval
  split
  · trivial
  split
  · trivial
  refine Prog.issues_bind (issues_getDecision _ _) (fun decision => ?_)
  unfold redeemDecision
  split
  · trivial
  split
  · trivial
  unfold spendApproval
  refine Prog.issues_bind issues_currentDigests (fun digests => ?_)
  split
  · trivial
  · exact issues_consumeAndAudit (hconsume _) (haudit _ rfl)

end Evaluations

end ControlPlane

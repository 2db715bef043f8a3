/-
# Runs of the remediation and approval requests

An approval passes in one way only: an approving request finds it pending and leaves it approved,
in the name of its reviewer.  So the gate of a proposal tells what has happened in the run, also
once the approval is purged.
-/
import ControlPlane.RemediationGate

namespace ControlPlane.Remediation

open Transaction AuditTrail
open Function (uncurry)

attribute [local irreducible] strip headerText runBundle enrichGovernanceRequest
  PolicyProcess.catchUp

/-! ## The requests -/

/-- A request that touches proposals or approvals, with the ids it draws and the readings of its
clock. -/
inductive GateCall where
  | governanceEvaluate (process : PolicyProcess) (headers : Headers)
      (body : GovernanceEvaluateRequest) (draws : Draws) (clock : ℕ → Instant)
  | approveRequest (headers : Headers) (approvalId : String) (payload : ResolveApprovalRequest)
      (eventId : String) (clock : ℕ → Instant)
  | rejectRequest (headers : Headers) (approvalId : String) (payload : ResolveApprovalRequest)
      (eventId : String) (clock : ℕ → Instant)
  | getApproval (approvalId : String) (tenantId : Option String) (clock : ℕ → Instant)
  | listApprovals (status : String) (limit offset : ℤ) (tenantId : Option String) (now : Instant)
  | expireStaleApprovals (now : Instant)
  | purgeRetained (retentionDays : ℤ) (dryRun : Bool) (limit : ℤ) (clock : ℕ → Instant)
  | createFromDrift (tenantId : String) (actionIndex : Option ℤ) (actionKind : Option String)
      (status : DriftStatus) (proposalId : String) (now : Instant)
  | evaluatePolicy (process : PolicyProcess) (proposalId : String) (tenantId : Option String)
      (environment : String) (team : Option String) (draws : Draws) (clock : ℕ → Instant)
  | resolveProposal (proposalId : String) (approved : Bool) (reviewer comment : String)
      (tenantId : Option String) (eventId : String) (clock : ℕ → Instant)
  | preparePrDraft (gitops : GitOpsPullRequestRequest → Except String (Option String))
      (proposalId : String) (tenantId prUrl : Option String) (now : Instant)
  | markApplied (proposalId : String) (tenantId prUrl : Option String) (clock : ℕ → Instant)
  | verifyRuntime (proposalId : String) (tenantId : Option String) (inventory : DriftStatus)
      (probeFresh : Bool) (clock : ℕ → Instant)

/-! ## How an approval passes -/

/-- There is an approval with this id that satisfies the condition. -/
def HasApproval (approvalId : String) (cond : ApprovalRow → Prop) (rows : List Row) : Prop :=
  ∃ a ∈ approvals rows, a.approvalId = approvalId ∧ cond a

/-- Where an approval that has passed comes from, and one that is pending. -/
structure Traced (passedFrom : ApprovalRow → Prop) (pendingFrom : String → Prop)
    (a : ApprovalRow) : Prop where
  passed : Passed a → passedFrom a
  pending : a.status = .pending → pendingFrom a.approvalId

section Traced

variable {passedFrom : ApprovalRow → Prop} {pendingFrom : String → Prop} {rows : List Row}

theorem traced_update {guard : ApprovalRow → Bool} {set : ApprovalRow → ApprovalRow}
    (h : ∀ a ∈ approvals rows, Traced passedFrom pendingFrom a)
    (hset : ∀ a, guard a = true → Traced passedFrom pendingFrom a →
      Traced passedFrom pendingFrom (set a)) :
    ∀ a ∈ approvals ((updateApprovals guard set).apply rows), Traced passedFrom pendingFrom a := by
  intro a' ha'
  rw [approvals_update, List.mem_map] at ha'
  obtain ⟨a, ha, rfl⟩ := ha'
  unfold updatedApproval
  split
  · exact hset a (by assumption) (h a ha)
  · exact h a ha

/-- An expired approval has neither passed nor is it pending. -/
theorem traced_expired {a : ApprovalRow} (hs : a.status = .expired) :
    Traced passedFrom pendingFrom a where
  passed h := by
    rcases h with h | h <;> rw [hs] at h <;> cases h
  pending h := by
    rw [hs] at h
    cases h

end Traced

namespace GateCall

variable (server : Server)

/-- The program of a request; what it answers does not matter here. -/
def program : GateCall → StoreM Unit
  | governanceEvaluate process headers body draws clock => do
    let _ ← server.governanceEvaluate process headers body draws clock
  | approveRequest headers approvalId payload eventId clock => do
    let _ ← ControlPlane.approveRequest server.py server.signals.auth headers approvalId payload
      eventId clock
  | rejectRequest headers approvalId payload eventId clock => do
    let _ ← ControlPlane.rejectRequest server.py server.signals.auth headers approvalId payload
      eventId clock
  | getApproval approvalId tenantId clock => do
    let _ ← ControlPlane.getApproval approvalId tenantId clock
  | listApprovals status limit offset tenantId now => do
    let _ ← ControlPlane.listApprovals status limit offset tenantId now
  | expireStaleApprovals now => do
    let _ ← ControlPlane.expireStaleApprovals now
  | purgeRetained retentionDays dryRun limit clock => do
    let _ ← ControlPlane.purgeRetained retentionDays dryRun limit clock
  | createFromDrift tenantId actionIndex actionKind status proposalId now => do
    let _ ← Remediation.createFromDrift tenantId actionIndex actionKind status proposalId now
  | evaluatePolicy process proposalId tenantId environment team draws clock => do
    let _ ← Remediation.evaluatePolicy server process proposalId tenantId environment team draws
      clock
  | resolveProposal proposalId approved reviewer comment tenantId eventId clock => do
    let _ ← Remediation.resolveProposal server.py proposalId approved reviewer comment tenantId
      eventId clock
  | preparePrDraft gitops proposalId tenantId prUrl now => do
    let _ ← Remediation.preparePrDraft gitops proposalId tenantId prUrl now
  | markApplied proposalId tenantId prUrl clock => do
    let _ ← Remediation.markApplied proposalId tenantId prUrl clock
  | verifyRuntime proposalId tenantId inventory probeFresh clock => do
    let _ ← Remediation.verifyRuntime proposalId tenantId inventory probeFresh clock

/-- The rows that a request leaves, when it runs alone. -/
def after (call : GateCall) (fails : ℕ → Option PyError) (rows : List Row) : List Row :=
  (outcome (call.program server) fails rows).2

/-- The ids that an evaluation draws. -/
def draws : GateCall → Option Draws
  | governanceEvaluate _ _ _ draws _ => some draws
  | evaluatePolicy _ _ _ _ _ draws _ => some draws
  | _ => none

/-- What a `uuid4` gives: the id of an approval is not empty. -/
def DrawsUuid (call : GateCall) : Prop := ∀ draws ∈ call.draws, draws.approvalId ≠ ""

/-- The reviewer of an approving request. -/
def approver : GateCall → Option String
  | approveRequest headers _ payload _ _ =>
    (resolveReviewer server.py server.signals.auth headers payload).toOption
  | resolveProposal _ true reviewer _ _ _ _ => some reviewer
  | _ => none

/-- The request updates a proposal. -/
def movesProposal : GateCall → Bool
  | evaluatePolicy .. => true
  | resolveProposal .. => true
  | preparePrDraft .. => true
  | markApplied .. => true
  | verifyRuntime .. => true
  | _ => false

/-- The request deletes rows. -/
def purges : GateCall → Bool
  | purgeRetained .. => true
  | _ => false

/-- The request moves the approval from pending to approved, in the name of its reviewer. -/
def Grants (call : GateCall) (fails : ℕ → Option PyError) (rows : List Row)
    (approvalId : String) : Prop :=
  ∃ reviewer, call.approver server = some reviewer ∧
    HasApproval approvalId (fun a => a.status = .pending) rows ∧
    HasApproval approvalId (fun a => a.status = .approved ∧ a.reviewer = some reviewer)
      (call.after server fails rows)

variable {server}

/-- An evaluation approves nothing. -/
theorem approver_of_draws {call : GateCall} {draws : Draws} (h : draws ∈ call.draws) :
    call.approver server = none := by
  cases call with
  | governanceEvaluate => rfl
  | evaluatePolicy => rfl
  | _ => cases h

/-- What the requests issue. -/
theorem issues_program {P : Stmt Row → Prop} [Prog.Quiet P] (call : GateCall)
    (hexpire : ∀ approvalId now, P (.change (expireChange approvalId now)))
    (hstale : ∀ now, P (.change (expireStaleChange now)))
    (hconsume : call.approver server = none → ∀ approvalId now,
      P (.change (consumeChange approvalId now)))
    (hresolve : ∀ status, (status = .approved ∨ status = .rejected) → ∀ approvalId reviewer
      comment now, (status = .approved → call.approver server = some reviewer) →
      P (.change (resolveChange approvalId status reviewer comment now)))
    (hdelete : call.purges = true → ∀ ids, P (.change (deleteAuditMeta ids)) ∧
      P (.change (deleteApprovals ids)) ∧ P (.change (deleteDecisions ids)))
    (haudit : ∀ m : AuditMetaRow, P (.insert (.auditMeta m)))
    (hdecision : ∀ draws ∈ call.draws, ∀ (new : NewDecision) now,
      P (.insert (.decision (new.row draws.decisionId now))))
    (happroval : ∀ draws ∈ call.draws, ∀ ttlSeconds now,
      P (.insert (.approval (newApproval draws.decisionId ttlSeconds draws.approvalId now))))
    (hproposal : ∀ p : RemediationProposalRow, p.status = .proposed → P (.insert (.proposal p)))
    (hmove : call.movesProposal = true → ∀ proposalId (u : ProposalUpdate) now,
      P (.change (updateProposalChange proposalId u now))) :
    (call.program server).Issues P := by
  have hreturn : ∀ x : Unit, (Prog.done (.ok x) : StoreM Unit).Issues P := fun _ => trivial
  cases call with
  | governanceEvaluate process headers body draws clock =>
    refine Prog.issues_bind ?_ (fun _ => hreturn _)
    refine Prog.issues_bind (issues_done _) (fun merged => ?_)
    exact Tenancy.issues_evaluateMerged _ _ _ hexpire (hconsume rfl) haudit
      (happroval draws rfl) (fun _ _ _ _ _ => hdecision draws rfl _ _)
  | approveRequest headers approvalId payload eventId clock =>
    refine Prog.issues_bind ?_ (fun _ => hreturn _)
    refine issues_resolveRequest (hexpire _) (fun hs reviewer now hreviewer =>
      hresolve _ hs _ _ _ _ (fun _ => ?_)) (fun m _ => haudit m)
    show (resolveReviewer _ _ _ _).toOption = some reviewer
    rw [hreviewer]
    rfl
  | rejectRequest headers approvalId payload eventId clock =>
    refine Prog.issues_bind ?_ (fun _ => hreturn _)
    exact issues_resolveRequest (hexpire _) (fun hs reviewer now _ =>
      hresolve _ hs _ _ _ _ (fun h => by cases h)) (fun m _ => haudit m)
  | getApproval approvalId tenantId clock =>
    exact Prog.issues_bind (issues_getApproval (hexpire _)) (fun _ => hreturn _)
  | listApprovals status limit offset tenantId now =>
    exact Prog.issues_bind (issues_listApprovals (hstale _)) (fun _ => hreturn _)
  | expireStaleApprovals now =>
    exact Prog.issues_bind (issues_expireStaleApprovals (hstale _)) (fun _ => hreturn _)
  | purgeRetained retentionDays dryRun limit clock =>
    exact Prog.issues_bind (issues_purgeRetained (hstale _) (fun ids => (hdelete rfl ids).1)
      (fun ids => (hdelete rfl ids).2.1) (fun ids => (hdelete rfl ids).2.2)) (fun _ => hreturn _)
  | createFromDrift tenantId actionIndex actionKind status proposalId now =>
    exact Prog.issues_bind (issues_createFromDrift (fun new hs => hproposal _ hs))
      (fun _ => hreturn _)
  | evaluatePolicy process proposalId tenantId environment team draws clock =>
    exact Prog.issues_bind (issues_evaluatePolicy (hdecision _ rfl) (happroval _ rfl _) haudit
      (hmove rfl proposalId)) (fun _ => hreturn _)
  | resolveProposal proposalId approved reviewer comment tenantId eventId clock =>
    refine Prog.issues_bind (issues_resolveProposal hexpire (fun approvalId now =>
      hresolve _ ?_ _ _ _ _ (fun h => ?_)) haudit (hmove rfl proposalId)) (fun _ => hreturn _)
    · cases approved
      · exact Or.inr rfl
      · exact Or.inl rfl
    · cases approved
      · cases h
      · rfl
  | preparePrDraft gitops proposalId tenantId prUrl now =>
    exact Prog.issues_bind (issues_preparePrDraft (hmove rfl proposalId)) (fun _ => hreturn _)
  | markApplied proposalId tenantId prUrl clock =>
    exact Prog.issues_bind (issues_markApplied (hmove rfl proposalId)) (fun _ => hreturn _)
  | verifyRuntime proposalId tenantId inventory probeFresh clock =>
    exact Prog.issues_bind (issues_verifyRuntime (hmove rfl)) (fun _ => hreturn _)

/-- A property that every statement of a request keeps. -/
theorem after_keeps {I : List Row → Prop} {call : GateCall}
    (h : (call.program server).Issues (Prog.Preserves schema I)) (fails : ℕ → Option PyError)
    {rows : List Row} (hrows : I rows) : I (call.after server fails rows) :=
  (h.keeps.run fails (σ := .ofRows rows) hrows hrows).2.1

/-- **What has passed after a request** had passed before, or is granted by the request. -/
theorem passed_after (call : GateCall) (fails : ℕ → Option PyError) (rows : List Row)
    {approvalId : String} (h : HasApproval approvalId Passed (call.after server fails rows)) :
    HasApproval approvalId Passed rows ∨ call.Grants server fails rows approvalId := by
  -- the approvals on the way, traced to the rows that the request starts from
  let passedFrom : ApprovalRow → Prop := fun a =>
    HasApproval a.approvalId Passed rows ∨ ∃ reviewer, call.approver server = some reviewer ∧
      HasApproval a.approvalId (fun a => a.status = .pending) rows ∧
      a.status = .approved ∧ a.reviewer = some reviewer
  let pendingFrom : String → Prop := fun id => call.approver server ≠ none →
    HasApproval id (fun a => a.status = .pending) rows
  have htraced : ∀ a ∈ approvals (call.after server fails rows),
      Traced passedFrom pendingFrom a := by
    have hkept : ∀ (rows' : List Row) (row : Row), approvals [row] = [] →
        (∀ a ∈ approvals rows', Traced passedFrom pendingFrom a) →
        ∀ a ∈ approvals (rows' ++ [row]), Traced passedFrom pendingFrom a := by
      intro rows' row hnone h
      rw [approvals_append, hnone, List.append_nil]
      exact h
    have hdeleted : ∀ (c : Change Row), (∀ r, c.set r = none) → ∀ rows',
        (∀ a ∈ approvals rows', Traced passedFrom pendingFrom a) →
        ∀ a ∈ approvals (c.apply rows'), Traced passedFrom pendingFrom a := by
      intro c hdelete rows' h a ha
      have hmem := (Change.apply_sublist hdelete rows').subset ((mem_approvals _).mp ha)
      exact h a ((mem_approvals rows').mpr hmem)
    refine after_keeps (I := fun rows' => ∀ a ∈ approvals rows', Traced passedFrom pendingFrom a)
      (issues_program call ?_ ?_ ?_ ?_ ?_ ?_ ?_ ?_ ?_ ?_) fails ?_
    · exact fun approvalId now rows' h => traced_update h (fun _ _ _ => traced_expired rfl)
    · exact fun now rows' h => traced_update h (fun _ _ _ => traced_expired rfl)
    · -- a consumption is of an approval that had passed before
      intro hnone approvalId now rows' h
      refine traced_update h (fun a ha htr => ⟨fun _ => ?_, fun hs => by cases hs⟩)
      rcases htr.passed (Or.inl (of_decide_eq_true ha).2.1) with hbefore | ⟨reviewer, hsome, -⟩
      · exact Or.inl hbefore
      · rw [hnone] at hsome
        cases hsome
    · -- a resolution is of a pending one
      intro status hs approvalId reviewer comment now hreviewer rows' h
      refine traced_update h (fun a ha htr => ⟨fun hpass => ?_, fun hp => ?_⟩)
      · have happroved : status = .approved := by
          rcases hpass with hnow | hnow
          · exact hnow
          · rcases hs with rfl | rfl <;> cases hnow
        have happrover := hreviewer happroved
        refine Or.inr ⟨reviewer, happrover, ?_, happroved, rfl⟩
        refine htr.pending (of_decide_eq_true ha).2 ?_
        rw [happrover]
        exact Option.some_ne_none _
      · have hstill : status = .pending := hp
        rcases hs with rfl | rfl <;> cases hstill
    · intro _ ids
      exact ⟨hdeleted _ (fun _ => rfl), hdeleted _ (fun _ => rfl), hdeleted _ (fun _ => rfl)⟩
    · exact fun m rows' h _ => hkept rows' _ rfl h
    · exact fun _ _ new now rows' h _ => hkept rows' _ rfl h
    · -- a new approval is pending
      intro draws hdraws ttlSeconds now rows' h _ a ha
      have hnone : call.approver server = none := approver_of_draws hdraws
      rw [approvals_append, List.mem_append] at ha
      rcases ha with ha | ha
      · exact h a ha
      · rw [List.mem_singleton.mp (show a ∈ [_] from ha)]
        refine ⟨fun hpass => ?_, fun _ hsome => absurd hnone hsome⟩
        rcases hpass with hs | hs <;> cases hs
    · exact fun p _ rows' h _ => hkept rows' _ rfl h
    · intro _ proposalId u now rows' h
      show ∀ a ∈ approvals ((updateProposalChange proposalId u now).apply rows'), _
      rw [approvals_updateProposal]
      exact h
    · exact fun a ha => ⟨fun hpass => Or.inl ⟨a, ha, rfl, hpass⟩, fun hs _ => ⟨a, ha, rfl, hs⟩⟩
  obtain ⟨a, ha, rfl, hpass⟩ := h
  rcases (htraced a ha).passed hpass with hbefore | ⟨reviewer, happrover, hpending, hs, hr⟩
  · exact Or.inl hbefore
  · exact Or.inr ⟨reviewer, happrover, hpending, a, ha, rfl, hs, hr⟩

/-! ## The gate after a request -/

/-- The gate with a history: also what has passed is in it. -/
structure GatedBy (granted : String → Prop) (rows : List Row) : Prop where
  gated : Gated granted rows
  history : ∀ approvalId, HasApproval approvalId Passed rows → granted approvalId

theorem GatedBy.mono {granted granted' : String → Prop} {rows : List Row}
    (hmono : ∀ approvalId, granted approvalId → granted' approvalId) (h : GatedBy granted rows) :
    GatedBy granted' rows where
  gated := h.gated.weaken hmono
  history approvalId hpassed := hmono approvalId (h.history approvalId hpassed)

/-- **One request keeps the gate.** -/
theorem gated_after {granted : String → Prop} (call : GateCall) (fails : ℕ → Option PyError)
    {rows : List Row} (hdraws : call.DrawsUuid) (h : GatedBy granted rows) :
    Gated granted (call.after server fails rows) := by
  have hsettles : ∀ {α : Type} {p : StoreM α},
      p.Settles schema (Gated granted) (fun _ => Gated granted) (Gated granted) →
      Gated granted (outcome (do let _ ← p) fails rows).2 := by
    intro α p hp
    exact settled_outcome (Prog.settles_bind hp (fun _ => Prog.settles_ok (fun _ h => h))) fails
      h.gated
  by_cases hmove : call.movesProposal = true
  · cases call with
    | evaluatePolicy process proposalId tenantId environment team draws clock =>
      exact hsettles (gated_evaluatePolicy process environment team (hdraws _ rfl))
    | resolveProposal proposalId approved reviewer comment tenantId eventId clock =>
      exact hsettles (gated_resolveProposal approved)
    | preparePrDraft gitops proposalId tenantId prUrl now =>
      exact hsettles (gated_preparePrDraft gitops prUrl now)
    | markApplied proposalId tenantId prUrl clock => exact hsettles (gated_markApplied prUrl)
    | verifyRuntime proposalId tenantId inventory probeFresh clock =>
      exact hsettles (gated_verifyRuntime inventory probeFresh)
    | _ => cases hmove
  · -- what a purge deletes is in the history
    have hcleared : ∀ p ∈ proposals rows, Cleared granted [] p :=
      fun p hp => (h.gated.cleared p hp).forget (fun a ha hpass => h.history _ ⟨a, ha, rfl, hpass⟩)
    have hdeleted : ∀ (c : Change Row), (∀ r, c.set r = none) → ∀ rows',
        (Gated granted rows' ∧ ∀ p ∈ proposals rows', Cleared granted [] p) →
        Gated granted (c.apply rows') ∧ ∀ p ∈ proposals (c.apply rows'), Cleared granted [] p := by
      intro c hdelete rows' h
      exact ⟨h.1.delete hdelete h.2, fun p hp => h.2 p ((mem_proposals rows').mpr
        ((Change.apply_sublist hdelete rows').subset ((mem_proposals _).mp hp)))⟩
    have hsame : ∀ (rows' rows'' : List Row), proposals rows'' = proposals rows' →
        Gated granted rows'' → (∀ p ∈ proposals rows', Cleared granted [] p) →
        Gated granted rows'' ∧ ∀ p ∈ proposals rows'', Cleared granted [] p := by
      intro rows' rows'' hrows hgated hp
      rw [hrows]
      exact ⟨hgated, hp⟩
    refine (after_keeps (I := fun rows => Gated granted rows ∧
      ∀ p ∈ proposals rows, Cleared granted [] p)
      (issues_program call ?_ ?_ ?_ ?_ ?_ ?_ ?_ ?_ ?_ ?_) fails ⟨h.gated, hcleared⟩).1
    · exact fun approvalId now rows' h => hsame _ _ proposals_update (h.1.expire _ _) h.2
    · exact fun now rows' h => hsame _ _ proposals_update (h.1.expireStale _) h.2
    · exact fun _ approvalId now rows' h => hsame _ _ proposals_update (h.1.consume _ _) h.2
    · exact fun status _ approvalId reviewer comment now _ rows' h =>
        hsame _ _ proposals_update (h.1.resolve _ _ _ _ _) h.2
    · exact fun _ ids => ⟨hdeleted _ (fun _ => rfl), hdeleted _ (fun _ => rfl),
        hdeleted _ (fun _ => rfl)⟩
    · intro m rows' h hadmits
      refine hsame _ _ (by simp) (h.1.insert hadmits ?_ ?_) h.2
      · exact fun a ha => absurd ha List.not_mem_nil
      · exact fun p hp => absurd hp List.not_mem_nil
    · intro _ _ new now rows' h hadmits
      refine hsame _ _ (by simp) (h.1.insert hadmits ?_ ?_) h.2
      · exact fun a ha => absurd ha List.not_mem_nil
      · exact fun p hp => absurd hp List.not_mem_nil
    · intro _ _ ttlSeconds now rows' h hadmits
      refine hsame _ _ (by simp) (h.1.insert hadmits (fun a ha hpass => ?_) ?_) h.2
      · rw [List.mem_singleton.mp (show a ∈ [_] from ha)] at hpass
        rcases hpass with hs | hs <;> cases hs
      · exact fun p hp => absurd hp List.not_mem_nil
    · intro p hs rows' h hadmits
      have hproposed : ∀ q ∈ proposals [Row.proposal p], q.status = .proposed := by
        intro q hq
        rw [List.mem_singleton.mp (show q ∈ [p] from hq)]
        exact hs
      refine ⟨h.1.insert hadmits (fun a ha => absurd ha List.not_mem_nil) hproposed, ?_⟩
      intro q hq
      rw [proposals_append, List.mem_append] at hq
      rcases hq with hq | hq
      · exact h.2 q hq
      · exact cleared_proposed (hproposed q hq)
    · exact fun hmoves => absurd hmoves hmove

/-- **One request keeps the gate and its history.** -/
theorem gatedBy_after {granted : String → Prop} (call : GateCall) (fails : ℕ → Option PyError)
    {rows : List Row} (hdraws : call.DrawsUuid) (h : GatedBy granted rows) :
    GatedBy (fun approvalId => granted approvalId ∨ call.Grants server fails rows approvalId)
      (call.after server fails rows) where
  gated := (gated_after call fails hdraws h).weaken (fun _ => Or.inl)
  history approvalId hpassed :=
    (passed_after call fails rows hpassed).imp_left (h.history approvalId)

end GateCall

open GateCall in
/-- **The gate of remediation proposals.**  In every run of requests, each on a server of its own
and cut short by any failure, from a store without proposals and approvals: a proposal that is
approved, in a pull request, applied, verifying, verified or failed is allowed by policy, or an
approving request of the run has moved its approval from pending to approved in the name of its
reviewer; and a verified one has a snapshot that says so. -/
theorem gate_of_run (calls : List ((Server × GateCall) × (ℕ → Option PyError)))
    (rows : List Row) (hkeys : (rows.map Row.key).Nodup) (happrovals : approvals rows = [])
    (hproposals : proposals rows = [])
    (hdraws : EveryStep (uncurry after) (fun request _ _ => request.2.DrawsUuid) calls rows) :
    ∀ p ∈ proposals (runCalls (uncurry after) calls rows),
      (p.status ∈ behindGate → p.policyVerdict = some .allow ∨
        ∃ approvalId, p.approvalId = some approvalId ∧ SomeStep (uncurry after)
          (fun request fails rows => request.2.Grants request.1 fails rows approvalId) calls
          rows) ∧
      (p.status = .verified → ∃ snapshot, p.verificationSnapshot = some snapshot ∧
        snapshot.outcome = .verified) := by
  have hstart : GatedBy (fun _ => False) rows := by
    refine ⟨gated_of_empty hkeys happrovals hproposals, ?_⟩
    rintro approvalId ⟨a, ha, -⟩
    rw [happrovals] at ha
    cases ha
  -- the history has the resolutions that let a proposal pass
  have hend := runCalls_history (uncurry after) (I := GatedBy) GatedBy.mono
    (fun request fails rows past hdraw h => gatedBy_after request.2 fails hdraw h) hdraws hstart
  intro p hp
  have hcleared := hend.gated.cleared p hp
  refine ⟨fun hs => ?_, hcleared.verified⟩
  rcases hcleared.gate hs with hallow | ⟨approvalId, hlink, hgranted⟩ | ⟨a, ha, hlink, hpass, -⟩
  · exact Or.inl hallow
  · exact Or.inr ⟨approvalId, hlink, hgranted.resolve_left id⟩
  · exact Or.inr ⟨a.approvalId, hlink,
      (hend.history a.approvalId ⟨a, ha, rfl, hpass⟩).resolve_left id⟩

/-! ## One proposal -/

/-- One backend lacks its model, or not. -/
def probed (inSync : Bool) : DriftStatus where
  updatedAt := "t"
  inSync := inSync
  summary := ""
  backends := [{
    backend := .ollama, probeHealthy := true, probeError := none
    desiredModels := ["llama3.1:8b"], actualModels := if inSync then ["llama3.1:8b"] else []
    missingOnBackend := if inSync then [] else ["llama3.1:8b"], unexpectedOnBackend := []
    inSync := inSync }]

/-- A proposal that waits for a reviewer and goes all the way. -/
def closedLoop : List ((Server × GateCall) × (ℕ → Option PyError)) :=
  [GateCall.createFromDrift "platform" none none (probed false) "p1" 0,
    .evaluatePolicy { bundle := shippedBundle } "p1" none "production" none
      (Persistence.drawsOf "d1" "a1" "e1" "e2") (fun _ => 0),
    .resolveProposal "p1" true "bob" "" none "e3" (fun _ => 1),
    .preparePrDraft (fun _ => .ok none) "p1" none none 2,
    .markApplied "p1" none none (fun _ => 3),
    .verifyRuntime "p1" none (probed true) false (fun _ => 4)].map
      (fun call => ((demoServer, call), fun _ => none))

/-- The proposal is verified, and `bob` has approved its approval on the way. -/
theorem gate_of_closedLoop :
    (proposals (runCalls (uncurry GateCall.after) closedLoop [])).map
        (fun p => (p.status, p.policyVerdict, p.approvalId))
      = [(.verified, some .approvalRequired, some "a1")] ∧
    SomeStep (uncurry GateCall.after)
      (fun request fails rows => request.2.Grants request.1 fails rows "a1") closedLoop [] := by
  have hend : (proposals (runCalls (uncurry GateCall.after) closedLoop [])).map
      (fun p => (p.status, p.policyVerdict, p.approvalId))
        = [(.verified, some .approvalRequired, some "a1")] := by decide +kernel
  refine ⟨hend, ?_⟩
  obtain ⟨p, hrows, hp⟩ := List.map_eq_singleton_iff.mp hend
  have hdraws : EveryStep (uncurry GateCall.after) (fun request _ _ => request.2.DrawsUuid)
      closedLoop [] := by
    have hnone : ∀ call : GateCall, call.draws = none → call.DrawsUuid := by
      intro call h draws hdraws
      rw [h] at hdraws
      cases hdraws
    refine ⟨hnone _ rfl, ?_, hnone _ rfl, hnone _ rfl, hnone _ rfl, hnone _ rfl, trivial⟩
    rintro _ ⟨⟩
    decide
  have hgate := (gate_of_run closedLoop [] List.nodup_nil rfl rfl hdraws p
    (hrows ▸ List.mem_singleton_self p)).1
  have hs : p.status = .verified := congrArg (fun x => x.1) hp
  have hverdict : p.policyVerdict = some .approvalRequired := congrArg (fun x => x.2.1) hp
  have hlink : p.approvalId = some "a1" := congrArg (fun x => x.2.2) hp
  rw [hs, hverdict, hlink] at hgate
  rcases hgate (by decide) with hallow | ⟨approvalId, hsame, hgranted⟩
  · cases hallow
  · rw [Option.some.inj hsame]
    exact hgranted

end ControlPlane.Remediation

/-
# Which proposals can be finished

A proposal that has been evaluated can be taken to a terminal status by a few calls, unless it
waits for an approval that nobody can resolve any more: one that has been resolved elsewhere, has
expired or is purged.  Then no request ever takes it further.
-/
import ControlPlane.RemediationRuns
import Mathlib.Data.Fintype.EquivFin
import Mathlib.Data.Finset.Preimage

namespace ControlPlane.Remediation

open Transaction AuditTrail
open Function (uncurry)

attribute [local irreducible] headerText runBundle enrichGovernanceRequest
  PolicyProcess.catchUp

/-! ## What a proposal waits for -/

/-- The approval can still be resolved at some time. -/
def StillPending (now : Instant) (a : ApprovalRow) : Prop :=
  a.status = .pending ∧ (a.expiresAt = "" ∨ isExpired a.expiresAt now = .ok false)

/-- What the resolution of a proposal needs: an approval that can be resolved, and the decision
for its audit row. -/
def Resolving (now : Instant) (p : RemediationProposalRow) (rows : List Row) : Prop :=
  p.approvalId.getD "" = "" ∨
    (∃ a ∈ approvals rows, a.approvalId = p.approvalId.getD "" ∧ StillPending now a) ∧
      (p.decisionId.getD "" = "" ∨ ∃ d ∈ decisions rows, d.decisionId = p.decisionId.getD "")

namespace GateCall

/-- The request does not resolve the proposal before a time. -/
def NotBefore (now : Instant) : GateCall → Prop
  | resolveProposal _ _ _ _ _ _ clock => now ≤ clock 0
  | _ => True

/-- What a `uuid4` gives: an id that is not among those of the proposal. -/
def Avoids (p : RemediationProposalRow) (call : GateCall) : Prop :=
  ∀ draws ∈ call.draws, p.approvalId ≠ some draws.approvalId ∧ p.decisionId ≠ some draws.decisionId

end GateCall

/-- The statuses of a proposal that has been evaluated and is not at its end. -/
def unfinished : List RemediationStatus :=
  [.policyEvaluated, .approved, .prCreated, .applied, .verifying]

section Finish

variable {server : Server} {rows : List Row} {proposalId : String} {p : RemediationProposalRow}

/-- The calls return one after the other, and the proposal is at its end. -/
def Finishes (server : Server) (proposalId : String) : List GateCall → List Row → Prop
  | [], rows => ∃ p ∈ proposals rows, p.proposalId = proposalId ∧ p.status ∈ terminal
  | call :: calls, rows =>
    (outcome (call.program server) (fun _ => none) rows).1 = .ok () ∧
      Finishes server proposalId calls (call.after server (fun _ => none) rows)

/-- The proposal is there with a status. -/
structure At (proposalId : String) (status : RemediationStatus) (rows : List Row) : Prop where
  keys : (rows.map Row.key).Nodup
  proposal : ∃ p ∈ proposals rows, p.proposalId = proposalId ∧ p.status = status

theorem findProposal_of_mem (hkeys : (rows.map Row.key).Nodup) (hp : p ∈ proposals rows)
    (hid : p.proposalId = proposalId) : findProposal rows proposalId = some p := by
  cases hfind : findProposal rows proposalId with
  | none => exact absurd (decide_eq_true hid) (List.find?_eq_none.mp hfind p hp)
  | some q =>
    obtain ⟨hq, hmem⟩ := findProposal_some hfind
    have hsame : Row.proposal q = Row.proposal p :=
      List.inj_on_of_nodup_map hkeys ((mem_proposals rows).mp hmem) ((mem_proposals rows).mp hp)
        (congrArg RowKey.proposal (hq.trans hid.symm))
    rw [Row.proposal.inj hsame]

theorem findApproval_of_mem {a : ApprovalRow} (hkeys : (rows.map Row.key).Nodup)
    (ha : a ∈ approvals rows) : findApproval rows a.approvalId = some a := by
  cases hfind : findApproval rows a.approvalId with
  | none => exact absurd (decide_eq_true rfl) (List.find?_eq_none.mp hfind a ha)
  | some b =>
    obtain ⟨hb, hmem⟩ := findApproval_some hfind
    have hsame : Row.approval b = Row.approval a :=
      List.inj_on_of_nodup_map hkeys ((mem_approvals rows).mp hmem) ((mem_approvals rows).mp ha)
        (congrArg RowKey.approval hb)
    rw [Row.approval.inj hsame]

/-- The update of a proposal that is there. -/
theorem returns_update {status status' : RemediationStatus} {u : ProposalUpdate} (now : Instant)
    (h : At proposalId status rows) (hu : u.status = some status') :
    ∃ record rows', (updateRemediationProposal proposalId u now).Returns schema rows record rows' ∧
      At proposalId status' rows' := by
  obtain ⟨p, hp, hid, -⟩ := h.proposal
  -- the update meets one row, since the keys are distinct
  have hcount : rows.countP (updateProposalChange proposalId u (Timestamp.isoformat now)).guard
      = 1 := by
    refine countP_eq_one (.proposal p) h.keys ((mem_proposals rows).mp hp)
      (decide_eq_true hid) (fun r hr => ?_)
    cases r with
    | proposal q => exact congrArg RowKey.proposal ((of_decide_eq_true hr).trans hid.symm)
    | _ => cases hr
  have hat : At proposalId status'
      ((updateProposalChange proposalId u (Timestamp.isoformat now)).apply rows) := by
    refine ⟨?_, u.set (Timestamp.isoformat now) p, ?_, hid, ?_⟩
    · rw [keys_updateProposal]
      exact h.keys
    · rw [proposals_updateProposal, List.mem_map]
      refine ⟨p, hp, ?_⟩
      unfold updatedProposal
      rw [if_pos hid]
    · show u.status.getD p.status = status'
      rw [hu]
      rfl
  obtain ⟨q, hq, hqid, -⟩ := hat.proposal
  have hbody : (updateProposalInSession proposalId u (Timestamp.isoformat now)).Writes schema rows
      (1 + (1 + 0))
      ((updateProposalChange proposalId u (Timestamp.isoformat now)).apply rows) q := by
    refine Prog.writes_bind (writes_execute _) ?_
    rw [hcount, if_neg (by decide)]
    refine Prog.writes_bind writes_fetchAll ?_
    rw [findProposal_of_mem hat.keys hq hqid]
    exact Prog.writes_done q
  have hreturns := (executes_committing hbody).returns
  rw [if_neg (by decide)] at hreturns
  exact ⟨q, _, hreturns, hat⟩

/-- An operation that loads the proposal and checks its status. -/
theorem returns_checked {status status' : RemediationStatus} (target : RemediationStatus)
    {rest : RemediationProposalRow → StoreM RemediationProposalRow} (h : At proposalId status rows)
    (hallowed : target ∈ allowed status)
    (hrest : ∀ p ∈ proposals rows, p.proposalId = proposalId → p.status = status →
      ∃ record rows', (rest p).Returns schema rows record rows' ∧ At proposalId status' rows') :
    ∃ record rows', (do
      let record ← load proposalId none
      Prog.done (requireTransition record.status target)
      rest record : StoreM RemediationProposalRow).Returns schema rows record rows' ∧
        At proposalId status' rows' := by
  obtain ⟨p, hp, hid, hs⟩ := h.proposal
  obtain ⟨record, rows', hreturns, hat⟩ := hrest p hp hid hs
  refine ⟨record, rows', ?_, hat⟩
  refine Prog.returns_bind (executes_load (findProposal_of_mem h.keys hp hid) rfl).returns ?_
  have hchecked : requireTransition p.status target = .ok () := by
    unfold requireTransition
    rw [hs, if_pos hallowed]
  rw [hchecked]
  exact hreturns

/-- A call that returns is one step to the end. -/
theorem finishes_cons {call : GateCall} {calls : List GateCall} {rows' : List Row}
    (h : (call.program server).Returns schema rows () rows')
    (hcalls : Finishes server proposalId calls rows') :
    Finishes server proposalId (call :: calls) rows := by
  obtain ⟨t, hrun⟩ := h 0
  have houtcome : outcome (call.program server) (fun _ => none) rows = (.ok (), rows') := by
    show (((call.program server).run schema (fun _ => none) ⟨rows, rows, 0⟩).1,
      ((call.program server).run schema (fun _ => none) ⟨rows, rows, 0⟩).2.committed) = _
    rw [hrun]
  refine ⟨congrArg Prod.fst houtcome, ?_⟩
  unfold GateCall.after
  rw [houtcome]
  exact hcalls

/-- A proposal at its end needs no call. -/
theorem finishes_nil {status : RemediationStatus} (h : At proposalId status rows)
    (hs : status ∈ terminal) : Finishes server proposalId [] rows := by
  obtain ⟨p, hp, hid, hps⟩ := h.proposal
  exact ⟨p, hp, hid, hps ▸ hs⟩

/-! ## From an approval to the verification -/

/-- The program of a request that answers with a proposal. -/
theorem returns_answer {program : StoreM RemediationProposalRow} (record : RemediationProposalRow)
    {rows' : List Row} (h : program.Returns schema rows record rows') :
    (do let _ ← program : StoreM Unit).Returns schema rows () rows' :=
  Prog.returns_bind h Prog.returns_done

/-- The verification of what is in the clusters. -/
def verification (proposalId : String) (inventory : DriftStatus) (now : Instant) : GateCall :=
  .verifyRuntime proposalId none inventory false (fun _ => now)

/-- Every snapshot is a verdict. -/
theorem status_verdictOf (snapshot : RuntimeVerificationSnapshot) :
    ∃ status, (verdictOf snapshot).status = some status ∧ status ∈ terminal := by
  unfold verdictOf
  cases snapshot.outcome with
  | verified => exact ⟨.verified, rfl, by decide⟩
  | failed => exact ⟨.failed, rfl, by decide⟩

/-- A verification ends a proposal. -/
theorem returns_verification {status : RemediationStatus} (inventory : DriftStatus) (now : Instant)
    (h : At proposalId status rows) (hs : status = .applied ∨ status = .verifying) :
    ∃ rows' status', ((verification proposalId inventory now).program server).Returns schema rows ()
      rows' ∧ At proposalId status' rows' ∧ status' ∈ terminal := by
  obtain ⟨p, hp, hid, hps⟩ := h.proposal
  have hbegin : ∃ rows₁, (beginVerifying p now).Returns schema rows () rows₁ ∧
      At proposalId .verifying rows₁ := by
    unfold beginVerifying
    rw [hps, hid]
    rcases hs with rfl | rfl
    · obtain ⟨record, rows₁, hreturns, hat⟩ := returns_update (u := { status := some .verifying })
        now h rfl
      rw [if_pos rfl]
      exact ⟨rows₁, Prog.returns_bind Prog.returns_done (Prog.returns_bind hreturns
        Prog.returns_done), hat⟩
    · rw [if_neg (by decide), if_neg (by decide)]
      exact ⟨rows, Prog.returns_done, h⟩
  obtain ⟨rows₁, hbegun, hat₁⟩ := hbegin
  -- whatever the inventory says, the verdict is a terminal status
  obtain ⟨status', hu, hend⟩ := status_verdictOf (buildVerificationSnapshot proposalId inventory
    p.driftSnapshot false (Timestamp.isoformat now))
  obtain ⟨record, rows₂, hupdate, hat₂⟩ := returns_update now hat₁ hu
  have hload := (executes_load (findProposal_of_mem h.keys hp hid)
    (show (none : Option String).any (fun t => p.tenantId ≠ t) = false from rfl)).returns
  refine ⟨rows₂, status', returns_answer record ?_, hat₂, hend⟩
  exact Prog.returns_bind hload (Prog.returns_bind hbegun
    (Prog.returns_bind executes_pythonStep.returns hupdate))

/-- The calls from an approval on. -/
def fromApproval (proposalId : String) (inventory : DriftStatus) (now : Instant) :
    RemediationStatus → List GateCall
  | .approved => [.preparePrDraft (fun _ => .ok none) proposalId none none now,
      .markApplied proposalId none none (fun _ => now), verification proposalId inventory now]
  | .prCreated => [.markApplied proposalId none none (fun _ => now),
      verification proposalId inventory now]
  | _ => [verification proposalId inventory now]

theorem moves_fromApproval (inventory : DriftStatus) (now : Instant) (status : RemediationStatus) :
    ∀ call ∈ fromApproval proposalId inventory now status,
      call.movesProposal = true ∧ call.NotBefore now := by
  have hlast : (verification proposalId inventory now).movesProposal = true ∧
      (verification proposalId inventory now).NotBefore now := ⟨rfl, trivial⟩
  cases status with
  | approved =>
    exact List.forall_mem_cons.mpr ⟨⟨rfl, trivial⟩, List.forall_mem_cons.mpr
      ⟨⟨rfl, trivial⟩, List.forall_mem_singleton.mpr hlast⟩⟩
  | prCreated =>
    exact List.forall_mem_cons.mpr ⟨⟨rfl, trivial⟩, List.forall_mem_singleton.mpr hlast⟩
  | _ => exact List.forall_mem_singleton.mpr hlast

/-- **From an approval on** a proposal can be finished, whatever the clusters hold. -/
theorem finishes_fromApproval {status : RemediationStatus} (inventory : DriftStatus) (now : Instant)
    (h : At proposalId status rows)
    (hs : status ∈ [RemediationStatus.approved, .prCreated, .applied, .verifying]) :
    Finishes server proposalId (fromApproval proposalId inventory now status) rows := by
  have hverify : ∀ {rows : List Row} {status : RemediationStatus}, At proposalId status rows →
      status = .applied ∨ status = .verifying →
      Finishes server proposalId [verification proposalId inventory now] rows := by
    intro rows status h hs
    obtain ⟨rows', status', hreturns, hat, hend⟩ := returns_verification inventory now h hs
    exact finishes_cons hreturns (finishes_nil hat hend)
  have happly : ∀ {rows : List Row}, At proposalId .prCreated rows →
      Finishes server proposalId [.markApplied proposalId none none (fun _ => now),
        verification proposalId inventory now] rows := by
    intro rows h
    obtain ⟨record, rows', hreturns, hat⟩ := returns_checked .applied h (by decide)
      (fun p hp hid hps => returns_update now (u := {
        status := some .applied
        appliedAt := some (Timestamp.isoformat now)
        prUrl := none }) h rfl)
    exact finishes_cons (returns_answer record hreturns) (hverify hat (Or.inl rfl))
  -- the provider has no URL for the pull request
  have hprepare : At proposalId .approved rows → ∃ record rows',
      (preparePrDraft (fun _ => .ok none) proposalId none none now).Returns schema rows record
        rows' ∧ At proposalId .prCreated rows' := by
    intro h
    refine returns_checked .prCreated h (by decide) (fun p hp hid hps => ?_)
    obtain ⟨record, rows', hupdate, hat⟩ := returns_update now (u := {
      status := some .prCreated
      prTitle := some (prTitle p)
      prBody := some (prBody p)
      prUrl := some "" }) h rfl
    refine ⟨record, rows', Prog.returns_bind ?_ hupdate, hat⟩
    have hempty : strip ((none : Option String).getD "") = "" := rfl
    unfold draftUrl
    rw [hempty]
    exact Prog.returns_bind executes_pythonStep.returns Prog.returns_done
  simp only [List.mem_cons, List.not_mem_nil, or_false] at hs
  rcases hs with rfl | rfl | rfl | rfl
  · obtain ⟨record, rows', hreturns, hat⟩ := hprepare h
    exact finishes_cons (returns_answer record hreturns) (happly hat)
  · exact happly h
  · exact hverify h (Or.inl rfl)
  · exact hverify h (Or.inr rfl)

/-! ## The resolution -/

/-- A name that is not that of the requester. -/
theorem exists_reviewer (py : PyRuntime) (requester : String) :
    ∃ reviewer, strip reviewer = reviewer ∧ reviewer ≠ "" ∧
      py.lower reviewer ≠ py.lower requester := by
  by_contra hnone
  have hsame : py.lower "a" = py.lower "b" :=
    (not_not.mp (fun h => hnone ⟨"a", rfl, by decide, h⟩)).trans
      (not_not.mp (fun h => hnone ⟨"b", rfl, by decide, h⟩)).symm
  rw [py.lower_ascii _ (by decide), py.lower_ascii _ (by decide)] at hsame
  exact absurd hsame (by decide)

/-- An id that no audit row has. -/
theorem exists_eventId (rows : List Row) :
    ∃ eventId, RowKey.auditMeta eventId ∉ rows.map Row.key := by
  have hinjective : Function.Injective RowKey.auditMeta := fun _ _ h => RowKey.auditMeta.inj h
  obtain ⟨eventId, hnot⟩ := Infinite.exists_notMem_finset
    ((rows.map Row.key).toFinset.preimage RowKey.auditMeta hinjective.injOn)
  refine ⟨eventId, fun hmem => hnot ?_⟩
  rw [Finset.mem_preimage, List.mem_toFinset]
  exact hmem

/-- The approval of a proposal can be resolved by somebody. -/
theorem resolvable_of_stillPending {a : ApprovalRow} {now : Instant} (py : PyRuntime)
    (hkeys : (rows.map Row.key).Nodup) (ha : a ∈ approvals rows) (h : StillPending now a) :
    ∃ reviewer d, Resolvable py rows a.approvalId reviewer none true (fun _ => now) a d := by
  have hfind : findApproval rows a.approvalId = some a := findApproval_of_mem hkeys ha
  let d := (decisions rows).find? (fun d => d.decisionId = a.decisionId)
  obtain ⟨reviewer, hstrip, -, hother⟩ := exists_reviewer py (requesterOf d)
  refine ⟨reviewer, d, ?_, h.2, ?_⟩
  · unfold joinDecision
    rw [hfind]
    rfl
  · have hexpired : ¬ a.status = .expired := by
      rw [h.1]
      decide
    have hpending : ¬ a.status ≠ .pending := not_not.mpr h.1
    unfold checkResolvable
    dsimp only
    rw [hstrip, if_neg (by simp), if_neg hexpired, if_neg hpending,
      if_neg (fun hself => hother hself.2.2)]

/-- The resolution that `Resolving` asks for. -/
theorem returns_resolveLinked {p : RemediationProposalRow} {now : Instant} (py : PyRuntime)
    (hkeys : (rows.map Row.key).Nodup) (h : Resolving now p rows) :
    ∃ reviewer eventId rows', (resolveLinked py p false reviewer "" eventId (fun _ => now)).Returns
      schema rows () rows' ∧ (rows'.map Row.key).Nodup ∧ proposals rows' = proposals rows := by
  by_cases hnone : p.approvalId.getD "" = ""
  · refine ⟨"", "", rows, ?_, hkeys, rfl⟩
    unfold resolveLinked
    dsimp only
    rw [if_pos hnone]
    exact Prog.returns_done
  obtain ⟨⟨a, ha, hid, hstill⟩, hdecided⟩ := h.resolve_left hnone
  -- some reviewer may resolve it: one who is not the requester
  obtain ⟨reviewer, d, hr⟩ := resolvable_of_stillPending py hkeys ha hstill
  rw [hid] at hr
  obtain ⟨eventId, hfresh⟩ := exists_eventId rows
  let rows₁ := resolvedRows rows (p.approvalId.getD "") reviewer (fun _ => now) .rejected ""
  have hresolve : (resolveApproval py (p.approvalId.getD "") .rejected reviewer "" none true
      (fun _ => now)).Returns schema rows _ _ :=
    (executes_resolveApproval hkeys (Or.inr rfl) hr).returns
  rw [if_neg (by decide)] at hresolve
  have hkeys₁ : rows₁.map Row.key = rows.map Row.key := keys_resolvedRows
  have hproposals₁ : proposals rows₁ = proposals rows := proposals_update
  by_cases hdecision : p.decisionId.getD "" = ""
  · refine ⟨reviewer, eventId, rows₁, ?_, hkeys₁ ▸ hkeys, hproposals₁⟩
    unfold resolveLinked
    dsimp only
    rw [if_neg hnone]
    refine Prog.returns_bind hresolve ?_
    rw [if_pos hdecision]
    exact Prog.returns_done
  · let m : AuditMetaRow := {
      eventId := eventId, decisionId := p.decisionId.getD "", eventType := "remediation_resolved"
      actor := reviewer
      payload := [("proposal_id", .str p.proposalId), ("status", .str "rejected"),
        ("comment", .str "")]
      createdAt := Timestamp.isoformat now }
    have happend := (executes_appendAuditMeta rows₁ m rfl (by rw [hkeys₁]; exact hfresh) (by
      rw [show decisions rows₁ = decisions rows from decisions_resolvedRows]
      exact hdecided.resolve_left hdecision)).returns
    rw [if_neg (by decide)] at happend
    refine ⟨reviewer, eventId, rows₁ ++ [.auditMeta m], ?_, ?_, ?_⟩
    · unfold resolveLinked
      dsimp only
      rw [if_neg hnone]
      refine Prog.returns_bind hresolve ?_
      rw [if_neg hdecision]
      exact Prog.returns_bind happend Prog.returns_done
    · rw [List.map_append, List.nodup_append]
      refine ⟨hkeys₁ ▸ hkeys, List.nodup_singleton _, ?_⟩
      rintro key hkey _ hm rfl
      rw [List.mem_singleton.mp hm, hkeys₁] at hkey
      exact hfresh hkey
    · rw [proposals_append, hproposals₁]
      exact List.append_nil _

/-- **A proposal that is `Resolving`** can be rejected. -/
theorem finishes_resolving {p : RemediationProposalRow} {now : Instant}
    (hkeys : (rows.map Row.key).Nodup) (hp : p ∈ proposals rows) (hs : p.status = .policyEvaluated)
    (h : Resolving now p rows) :
    ∃ reviewer eventId, Finishes server p.proposalId
      [.resolveProposal p.proposalId false reviewer "" none eventId (fun _ => now)] rows := by
  obtain ⟨reviewer, eventId, rows₁, hlinked, hkeys₁, hproposals⟩ :=
    returns_resolveLinked server.py hkeys h
  have hat₁ : At p.proposalId .policyEvaluated rows₁ := ⟨hkeys₁, p, hproposals ▸ hp, rfl, hs⟩
  obtain ⟨record, rows₂, hupdate, hat₂⟩ := returns_update (u := { status := some .rejected })
    now hat₁ rfl
  have hload := (executes_load (findProposal_of_mem hkeys hp rfl)
    (show (none : Option String).any (fun t => p.tenantId ≠ t) = false from rfl)).returns
  have hchecked : requireTransition p.status .rejected = .ok () := by
    rw [hs]
    rfl
  refine ⟨reviewer, eventId, finishes_cons (returns_answer record ?_)
    (finishes_nil hat₂ (by decide))⟩
  refine Prog.returns_bind hload ?_
  dsimp only
  rw [if_neg (by decide), hchecked]
  exact Prog.returns_bind Prog.returns_done (Prog.returns_bind hlinked hupdate)

end Finish

/-! ## What waits for ever -/

/-- The proposal waits for a resolution that nobody can give. -/
structure Stuck (now : Instant) (p : RemediationProposalRow) (rows : List Row) : Prop where
  keys : (rows.map Row.key).Nodup
  waiting : ∃ q ∈ proposals rows, q.proposalId = p.proposalId ∧ q.status = .policyEvaluated ∧
    q.approvalId = p.approvalId ∧ q.decisionId = p.decisionId
  closed : ¬ Resolving now p rows

section Stuck

variable {rows : List Row} {p : RemediationProposalRow} {now : Instant}

/-- What a resolution needs is there before, when it is there after. -/
theorem Resolving.back {rows' : List Row} (h : Resolving now p rows')
    (happroval : ∀ a' ∈ approvals rows', a'.approvalId = p.approvalId.getD "" →
      p.approvalId.getD "" ≠ "" → StillPending now a' →
      ∃ a ∈ approvals rows, a.approvalId = p.approvalId.getD "" ∧ StillPending now a)
    (hdecision : ∀ d' ∈ decisions rows', d'.decisionId = p.decisionId.getD "" →
      p.decisionId.getD "" ≠ "" → ∃ d ∈ decisions rows, d.decisionId = p.decisionId.getD "") :
    Resolving now p rows := by
  by_cases hlink : p.approvalId.getD "" = ""
  · exact Or.inl hlink
  obtain ⟨⟨a', ha', hid, hstill⟩, hdecided⟩ := h.resolve_left hlink
  refine Or.inr ⟨happroval a' ha' hid hlink hstill, ?_⟩
  by_cases hd : p.decisionId.getD "" = ""
  · exact Or.inl hd
  · obtain ⟨d', hd', hdid⟩ := hdecided.resolve_left hd
    exact Or.inr (hdecision d' hd' hdid hd)

/-- **Approvals are updated**: none becomes pending. -/
theorem Stuck.update {guard : ApprovalRow → Bool} {set : ApprovalRow → ApprovalRow}
    (h : Stuck now p rows) (hid : ∀ a, (set a).approvalId = a.approvalId)
    (hset : ∀ a, guard a = true → (set a).status ≠ .pending) :
    Stuck now p ((updateApprovals guard set).apply rows) where
  keys := by
    rw [keys_update hid]
    exact h.keys
  waiting := by
    rw [proposals_update]
    exact h.waiting
  closed hresolving := by
    refine h.closed (hresolving.back (fun a' ha' haid _ hstill => ?_) (fun d hd hdid _ => ?_))
    · rw [approvals_update, List.mem_map] at ha'
      obtain ⟨a, ha, rfl⟩ := ha'
      unfold updatedApproval at haid hstill
      split at hstill
      · rename_i hguard
        exact absurd hstill.1 (hset a hguard)
      · rename_i hguard
        rw [if_neg hguard] at haid
        exact ⟨a, ha, haid, hstill⟩
    · rw [decisions_update] at hd
      exact ⟨d, hd, hdid⟩

/-- **New rows** that the proposal does not refer to. -/
theorem Stuck.insert {row : Row} (h : Stuck now p rows) (hadmits : schema.admits rows row = true)
    (happroval : ∀ a ∈ approvals [row], p.approvalId ≠ some a.approvalId)
    (hdecision : ∀ d ∈ decisions [row], p.decisionId ≠ some d.decisionId) :
    Stuck now p (rows ++ [row]) where
  keys := by
    rw [List.map_append, List.nodup_append]
    refine ⟨h.keys, List.nodup_singleton _, ?_⟩
    rintro key hkey _ hnew rfl
    rw [List.mem_singleton.mp hnew] at hkey
    exact (admits_iff.mp hadmits).1 hkey
  waiting := by
    obtain ⟨q, hq, hrest⟩ := h.waiting
    refine ⟨q, ?_, hrest⟩
    rw [proposals_append]
    exact List.mem_append_left _ hq
  closed hresolving := by
    -- the references of the proposal are to other rows than the new one
    have hsome : ∀ {id : Option String} {text : String}, text = id.getD "" → id.getD "" ≠ "" →
        id = some text := by
      intro id text htext hne
      cases id with
      | none => exact absurd rfl hne
      | some id => exact congrArg some htext.symm
    refine h.closed (hresolving.back (fun a ha haid hlink hstill => ?_)
      (fun d hd hdid hlink => ?_))
    · rw [approvals_append, List.mem_append] at ha
      rcases ha with ha | ha
      · exact ⟨a, ha, haid, hstill⟩
      · exact absurd (hsome haid hlink) (happroval a ha)
    · rw [decisions_append, List.mem_append] at hd
      rcases hd with hd | hd
      · exact ⟨d, hd, hdid⟩
      · exact absurd (hsome hdid hlink) (hdecision d hd)

/-- **Rows are deleted**, but no proposals. -/
theorem Stuck.delete {c : Change Row} (h : Stuck now p rows) (hset : ∀ r, c.set r = none)
    (hproposals : ∀ q, c.guard (.proposal q) = false) : Stuck now p (c.apply rows) where
  keys := h.keys.sublist ((Change.apply_sublist hset rows).map Row.key)
  waiting := by
    obtain ⟨q, hq, hrest⟩ := h.waiting
    refine ⟨q, ?_, hrest⟩
    rw [Persistence.apply_delete hset, mem_proposals, List.mem_filter]
    exact ⟨(mem_proposals rows).mp hq, by rw [hproposals]; rfl⟩
  closed hresolving := by
    have hsub := (Change.apply_sublist hset rows).subset
    exact h.closed (hresolving.back
      (fun a ha haid _ hstill =>
        ⟨a, (mem_approvals rows).mpr (hsub ((mem_approvals _).mp ha)), haid, hstill⟩)
      (fun d hd hdid _ => ⟨d, (mem_decisions rows).mpr (hsub ((mem_decisions _).mp hd)), hdid⟩))

/-- **Another proposal is updated.** -/
theorem Stuck.moveOther {proposalId : String} {u : ProposalUpdate} {time : String}
    (h : Stuck now p rows) (hother : proposalId ≠ p.proposalId) :
    Stuck now p ((updateProposalChange proposalId u time).apply rows) where
  keys := by
    rw [keys_updateProposal]
    exact h.keys
  waiting := by
    obtain ⟨q, hq, hid, hrest⟩ := h.waiting
    refine ⟨q, ?_, hid, hrest⟩
    rw [proposals_updateProposal, List.mem_map]
    refine ⟨q, hq, ?_⟩
    unfold updatedProposal
    rw [if_neg (fun hsame => hother (hsame.symm.trans hid))]
  closed hresolving := by
    refine h.closed (hresolving.back (fun a ha haid _ hstill => ?_) (fun d hd hdid _ => ?_))
    · rw [approvals_updateProposal] at ha
      exact ⟨a, ha, haid, hstill⟩
    · rw [decisions_updateProposal] at hd
      exact ⟨d, hd, hdid⟩

/-- What is loaded under the id of the proposal. -/
theorem Stuck.loaded {record : RemediationProposalRow} (h : Stuck now p rows)
    (hfind : findProposal rows p.proposalId = some record) :
    record.status = .policyEvaluated ∧ record.approvalId = p.approvalId ∧
      record.decisionId = p.decisionId := by
  obtain ⟨q, hq, hid, hs, hlink, hdecision⟩ := h.waiting
  rw [findProposal_of_mem h.keys hq hid, Option.some.injEq] at hfind
  rw [← hfind]
  exact ⟨hs, hlink, hdecision⟩

end Stuck

section Attempts

variable {server : Server} {rows : List Row} {p : RemediationProposalRow} {now : Instant}
  {clock : ℕ → Instant} {proposalId : String} {tenantId : Option String}

theorem Stuck.expire (h : Stuck now p rows) (approvalId time : String) :
    Stuck now p ((expireChange approvalId time).apply rows) :=
  h.update (fun _ => rfl) (fun _ _ hs => by cases hs)

theorem Stuck.expireStale (h : Stuck now p rows) (time : String) :
    Stuck now p ((expireStaleChange time).apply rows) :=
  h.update (fun _ => rfl) (fun _ _ hs => by cases hs)

theorem Stuck.consume (h : Stuck now p rows) (approvalId time : String) :
    Stuck now p ((consumeChange approvalId time).apply rows) :=
  h.update (fun _ => rfl) (fun _ _ hs => by cases hs)

theorem Stuck.resolve {status : ApprovalStatus} (h : Stuck now p rows)
    (hstatus : status = .approved ∨ status = .rejected)
    (approvalId reviewer comment time : String) :
    Stuck now p ((resolveChange approvalId status reviewer comment time).apply rows) := by
  refine h.update (fun _ => rfl) (fun _ _ hs => ?_)
  have hpending : status = .pending := hs
  rcases hstatus with rfl | rfl <;> cases hpending

/-- A time limit that is open later has been open before. -/
theorem timely_mono {expiresAt : String} {now' : Instant} (hle : now ≤ now')
    (h : isExpired expiresAt now' = .ok false) : isExpired expiresAt now = .ok false := by
  unfold isExpired at h ⊢
  cases hparse : Timestamp.parseIso expiresAt with
  | none =>
    rw [hparse] at h
    cases h
  | some t =>
    rw [hparse] at h
    have hlate : ¬ t ≤ now' := of_decide_eq_false (Except.ok.inj h)
    exact congrArg Except.ok (decide_eq_false (fun ht => hlate (ht.trans hle)))

/-- **An attempt to resolve the approval** fails, or the decision is missing. -/
theorem settles_resolve_stuck {py : PyRuntime} {status : ApprovalStatus} {reviewer comment : String}
    (hstatus : status = .approved ∨ status = .rejected) (hclock : now ≤ clock 0) :
    (resolveApproval py (p.approvalId.getD "") status reviewer comment none true clock).Settles
      schema (Stuck now p)
      (fun _ rows => Stuck now p rows ∧ p.decisionId.getD "" ≠ "" ∧
        ∀ d ∈ decisions rows, d.decisionId ≠ p.decisionId.getD "") (Stuck now p) := by
  refine Prog.settles_of_rows (fun rows h => ?_)
  have hresolved := h.resolve hstatus (p.approvalId.getD "") reviewer comment
    (Timestamp.isoformat (clock 2))
  by_cases hr : ∃ a d, Resolvable py rows (p.approvalId.getD "") reviewer none true clock a d
  · obtain ⟨a, d, hr⟩ := hr
    obtain ⟨hid, ha⟩ := findApproval_some hr.approval
    have hstill : StillPending now a := ⟨hr.pending, hr.timely.imp_right (timely_mono hclock)⟩
    -- the approval can be resolved, so it is the decision that is missing
    have hmissing : ¬ (p.decisionId.getD "" = "" ∨
        ∃ d ∈ decisions rows, d.decisionId = p.decisionId.getD "") :=
      fun hdecided => h.closed (Or.inr ⟨⟨a, ha, hid, hstill⟩, hdecided⟩)
    obtain ⟨hne, hnone⟩ := not_or.mp hmissing
    have hexecutes : (resolveApproval py (p.approvalId.getD "") status reviewer comment none true
        clock).Executes schema rows 7 (fun i => if i ≤ 3 then rows
          else resolvedRows rows (p.approvalId.getD "") reviewer clock status comment) _ :=
      executes_resolveApproval h.keys hstatus hr
    refine hexecutes.settles.mono (fun _ h => h) ?_ ?_
    · rintro _ rows' ⟨-, hrows'⟩
      rw [if_neg (by omega)] at hrows'
      rw [hrows']
      refine ⟨hresolved, hne, fun d hd hdid => hnone ⟨d, ?_, hdid⟩⟩
      rw [decisions_resolvedRows] at hd
      exact hd
    · rintro rows' ⟨i, -, hrows'⟩
      rw [hrows']
      split
      · exact h
      · exact hresolved
  · refine (settles_resolveApproval_refused (fun a d hr' => hr ⟨a, d, hr'⟩)).mono (fun _ h => h)
      (fun _ _ h => h.elim) ?_
    rintro rows' (rfl | rfl)
    · exact h
    · unfold lapsed
      split
      · exact h.expire _ _
      · exact h

/-- Without its decision no audit row is written. -/
theorem settles_appendAuditMeta_missing {decisionId eventType actor eventId : String}
    {payload : List (String × Json.Value)} {time : Instant} :
    (appendAuditMeta decisionId eventType actor payload eventId time false).Settles schema
      (fun rows => Stuck now p rows ∧ ∀ d ∈ decisions rows, d.decisionId ≠ decisionId)
      (fun _ _ => False) (Stuck now p) := by
  refine Prog.settles_bind (R := fun _ _ => False) ?_ (fun _ _ _ hσ => hσ.2.elim)
  refine (settles_onConnection (P := fun rows => Stuck now p rows ∧
    ∀ d ∈ decisions rows, d.decisionId ≠ decisionId) (Q := fun _ _ => False) ?_).mono (fun _ h => h)
    (fun _ _ h => h) ?_
  · refine (meets_insert _ (fun _ _ h => h.2)).mono (fun _ _ h => h) ?_ (fun _ _ h => h)
    rintro _ c r ⟨r', ⟨rfl, hc⟩, hadmits, -⟩
    obtain ⟨d, hd, hdid⟩ := (refersToDecision_iff rfl).mp (admits_iff.mp hadmits).2
    exact absurd hdid (hc.2 d hd)
  · rintro rows (h | ⟨-, h⟩)
    · exact h.1
    · exact h.elim

/-- **No resolution of the proposal** returns. -/
theorem settles_resolveProposal_stuck {py : PyRuntime} {approved : Bool}
    {reviewer comment eventId : String} (hclock : now ≤ clock 0) :
    (resolveProposal py p.proposalId approved reviewer comment tenantId eventId clock).Settles
      schema (Stuck now p) (fun _ _ => False) (Stuck now p) := by
  -- the approval is refused, or the audit row has no decision to refer to
  have hlinked : ∀ record : RemediationProposalRow, record.approvalId = p.approvalId →
      record.decisionId = p.decisionId → p.approvalId.getD "" ≠ "" →
      (resolveLinked py record approved reviewer comment eventId clock).Settles schema (Stuck now p)
        (fun _ _ => False) (Stuck now p) := by
    intro record happroval hdecision hlink
    unfold resolveLinked
    dsimp only
    rw [happroval, hdecision, if_neg hlink]
    refine Prog.settles_bind (settles_resolve_stuck ?_ hclock) (fun _ => ?_)
    · cases approved
      · exact Or.inr rfl
      · exact Or.inl rfl
    · by_cases hnone : p.decisionId.getD "" = ""
      · intro fails σ hσ
        exact absurd hnone hσ.2.2.1
      · rw [if_neg hnone]
        refine Prog.settles_bind (R := fun _ _ => False)
          (settles_appendAuditMeta_missing.mono (fun _ h => ⟨h.1, h.2.2⟩) (fun _ _ h => h)
            (fun _ h => h)) (fun _ _ _ hσ => hσ.2.elim)
  refine Prog.settles_bind settles_load (fun record => ?_)
  refine Prog.settles_bind (R := fun _ rows => Stuck now p rows ∧
    findProposal rows p.proposalId = some record) (Prog.settles_done (fun _ _ _ h => ⟨h.1, h.2.1⟩)
    (fun _ _ _ h => h.1)) (fun _ => ?_)
  refine Prog.settles_bind (R := fun _ _ => False) (Prog.settles_of_rows (fun rows h => ?_))
    (fun _ _ _ hσ => hσ.2.elim)
  obtain ⟨hstuck, hfind⟩ := h
  obtain ⟨-, happroval, hdecision⟩ := hstuck.loaded hfind
  refine (hlinked record happroval hdecision (fun hnone => hstuck.closed (Or.inl hnone))).mono ?_
    (fun _ _ h => h) (fun _ h => h)
  rintro _ rfl
  exact hstuck

/-- An operation that asks for a transition that a waiting proposal has not. -/
theorem settles_unmoved {α : Type} {target : RemediationStatus}
    {rest : RemediationProposalRow → StoreM α}
    (htarget : target ∉ allowed .policyEvaluated) :
    (do
      let record ← load p.proposalId tenantId
      Prog.done (requireTransition record.status target)
      rest record).Settles schema (Stuck now p) (fun _ => Stuck now p) (Stuck now p) := by
  refine Prog.settles_bind settles_load (fun record => Prog.settles_of_rows (fun rows h => ?_))
  obtain ⟨hstuck, hfind, -⟩ := h
  have hrefused : ∃ e, requireTransition record.status target = .error e := by
    unfold requireTransition
    rw [(hstuck.loaded hfind).1, if_neg htarget]
    exact ⟨_, rfl⟩
  obtain ⟨e, he⟩ := hrefused
  rw [he]
  refine Prog.settles_bind (R := fun _ _ => False) (Prog.settles_error ?_) (fun _ _ _ hσ =>
    hσ.2.elim)
  rintro _ rfl
  exact hstuck

end Attempts

/-! ## All requests -/

section Requests

variable {server : Server} {rows : List Row} {p : RemediationProposalRow} {now : Instant}

/-- The statements of a request that leaves the proposal alone. -/
theorem issues_stuck (call : GateCall) (havoids : call.Avoids p)
    (hmove : call.movesProposal = true → ∀ proposalId (u : ProposalUpdate) time,
      Prog.Preserves schema (Stuck now p) (.change (updateProposalChange proposalId u time))) :
    (call.program server).Issues (Prog.Preserves schema (Stuck now p)) := by
  refine GateCall.issues_program call ?_ ?_ ?_ ?_ ?_ ?_ ?_ ?_ ?_ hmove
  · exact fun approvalId time rows h => h.expire approvalId time
  · exact fun time rows h => h.expireStale time
  · exact fun _ approvalId time rows h => h.consume approvalId time
  · exact fun status hs approvalId reviewer comment time _ rows h =>
      h.resolve hs approvalId reviewer comment time
  · exact fun _ ids => ⟨fun rows h => h.delete (fun _ => rfl) (fun _ => rfl),
      fun rows h => h.delete (fun _ => rfl) (fun _ => rfl),
      fun rows h => h.delete (fun _ => rfl) (fun _ => rfl)⟩
  · exact fun m rows h hadmits => h.insert hadmits (fun a ha => absurd ha List.not_mem_nil)
      (fun d hd => absurd hd List.not_mem_nil)
  · intro draws hdraws new time rows h hadmits
    refine h.insert hadmits (fun a ha => absurd ha List.not_mem_nil) (fun d hd => ?_)
    rw [List.mem_singleton.mp (show d ∈ [_] from hd)]
    exact (havoids draws hdraws).2
  · intro draws hdraws ttlSeconds time rows h hadmits
    refine h.insert hadmits (fun a ha => ?_) (fun d hd => absurd hd List.not_mem_nil)
    rw [List.mem_singleton.mp (show a ∈ [_] from ha)]
    exact (havoids draws hdraws).1
  · exact fun q _ rows h hadmits => h.insert hadmits (fun a ha => absurd ha List.not_mem_nil)
      (fun d hd => absurd hd List.not_mem_nil)

/-- The verification of any proposal leaves the waiting one alone. -/
theorem settles_verifyRuntime_stuck {proposalId : String} {tenantId : Option String}
    {inventory : DriftStatus} {probeFresh : Bool} {clock : ℕ → Instant} :
    (verifyRuntime proposalId tenantId inventory probeFresh clock).Settles schema (Stuck now p)
      (fun _ => Stuck now p) (Stuck now p) := by
  refine Prog.settles_bind settles_load (fun record => Prog.settles_of_rows (fun rows h => ?_))
  obtain ⟨hstuck, hfind, -⟩ := h
  have hstart : ∀ {α : Type} {program : StoreM α} {Q : α → List Row → Prop},
      program.Settles schema (Stuck now p) Q (Stuck now p) →
      program.Settles schema (fun rows' => rows' = rows) Q (Stuck now p) := by
    intro α program Q hprogram
    refine hprogram.mono ?_ (fun _ _ h => h) (fun _ h => h)
    rintro _ rfl
    exact hstuck
  by_cases hsame : proposalId = p.proposalId
  · -- a waiting proposal is neither applied nor verifying
    rw [hsame] at hfind
    refine hstart (Prog.settles_bind (R := fun _ _ => False) ?_ (fun _ _ _ hσ => hσ.2.elim))
    unfold beginVerifying
    rw [(hstuck.loaded hfind).1, if_neg (by decide), if_pos (by decide)]
    exact Prog.settles_error (fun _ h => h)
  · have hmoves : ∀ (id : String) (u : ProposalUpdate) (time : Instant), id ≠ p.proposalId →
        (updateRemediationProposal id u time).Settles schema (Stuck now p) (fun _ => Stuck now p)
          (Stuck now p) :=
      fun id u time hother => settles_update (fun _ h => h) (fun _ h => h)
        (fun rows h => h.moveOther hother)
    have hid : record.proposalId = proposalId := (findProposal_some hfind).1
    refine hstart (Prog.settles_bind (R := fun _ => Stuck now p) ?_ (fun _ => ?_))
    · unfold beginVerifying
      rw [hid]
      split
      · refine Prog.settles_bind (R := fun _ => Stuck now p) (Prog.settles_done (fun _ _ _ h => h)
          (fun _ _ _ h => h)) (fun _ => ?_)
        exact Prog.settles_bind (hmoves _ _ _ hsame) (fun _ => Prog.settles_ok (fun _ h => h))
      · split
        · exact Prog.settles_done (fun _ _ _ h => h) (fun _ _ _ h => h)
        · exact Prog.settles_ok (fun _ h => h)
    · refine Prog.settles_bind (settles_pythonStep (fun _ h => h)) (fun _ => ?_)
      exact hmoves _ _ _ hsame

/-- **No request takes the proposal on.** -/
theorem stuck_after (call : GateCall) (fails : ℕ → Option PyError) (hclock : call.NotBefore now)
    (havoids : call.Avoids p) (h : Stuck now p rows) :
    Stuck now p (call.after server fails rows) := by
  have hsettles : ∀ {α : Type} {program : StoreM α}, program.Settles schema (Stuck now p)
      (fun _ => Stuck now p) (Stuck now p) →
      Stuck now p (outcome (do let _ ← program) fails rows).2 := by
    intro α program hprogram
    exact settled_outcome (Prog.settles_bind hprogram (fun _ => Prog.settles_ok (fun _ h => h)))
      fails h
  have hissues : ∀ {α : Type} {program : StoreM α},
      program.Issues (Prog.Preserves schema (Stuck now p)) →
      Stuck now p (outcome (do let _ ← program) fails rows).2 := by
    intro α program hprogram
    have hall : (do let _ ← program : StoreM Unit).Issues (Prog.Preserves schema (Stuck now p)) :=
      Prog.issues_bind hprogram (fun _ => trivial)
    exact (hall.keeps.run fails (σ := .ofRows rows) h h).2.1
  by_cases hmove : call.movesProposal = true
  · -- requests about other proposals move these alone
    have hother : ∀ {proposalId : String}, proposalId ≠ p.proposalId →
        ∀ (u : ProposalUpdate) (time : String), Prog.Preserves schema (Stuck now p)
          (.change (updateProposalChange proposalId u time)) :=
      fun hne u time rows h => h.moveOther hne
    have haudit : ∀ m : AuditMetaRow, Prog.Preserves schema (Stuck now p)
        (.insert (.auditMeta m)) :=
      fun m rows h hadmits => h.insert hadmits (fun a ha => absurd ha List.not_mem_nil)
        (fun d hd => absurd hd List.not_mem_nil)
    cases call with
    | evaluatePolicy process proposalId tenantId environment team draws clock =>
      by_cases hsame : proposalId = p.proposalId
      · rw [hsame]
        exact hsettles (settles_unmoved (by decide))
      · refine hissues (issues_evaluatePolicy (fun new time rows h hadmits => ?_)
          (fun time rows h hadmits => ?_) haudit (hother hsame))
        · refine h.insert hadmits (fun a ha => absurd ha List.not_mem_nil) (fun d hd => ?_)
          rw [List.mem_singleton.mp (show d ∈ [_] from hd)]
          exact (havoids draws rfl).2
        · refine h.insert hadmits (fun a ha => ?_) (fun d hd => absurd hd List.not_mem_nil)
          rw [List.mem_singleton.mp (show a ∈ [_] from ha)]
          exact (havoids draws rfl).1
    | resolveProposal proposalId approved reviewer comment tenantId eventId clock =>
      by_cases hsame : proposalId = p.proposalId
      · rw [hsame]
        exact hsettles ((settles_resolveProposal_stuck hclock).mono (fun _ h => h)
          (fun _ _ h => h.elim) (fun _ h => h))
      · refine hissues (issues_resolveProposal (fun approvalId time rows h => h.expire _ _)
          (fun approvalId time rows h => h.resolve ?_ _ _ _ _) haudit (hother hsame))
        cases approved
        · exact Or.inr rfl
        · exact Or.inl rfl
    | preparePrDraft gitops proposalId tenantId prUrl time =>
      by_cases hsame : proposalId = p.proposalId
      · rw [hsame]
        exact hsettles (settles_unmoved (by decide))
      · exact hissues (issues_preparePrDraft (hother hsame))
    | markApplied proposalId tenantId prUrl clock =>
      by_cases hsame : proposalId = p.proposalId
      · rw [hsame]
        exact hsettles (settles_unmoved (by decide))
      · exact hissues (issues_markApplied (hother hsame))
    | verifyRuntime proposalId tenantId inventory probeFresh clock =>
      exact hsettles settles_verifyRuntime_stuck
    | _ => cases hmove
  · exact GateCall.after_keeps (issues_stuck call havoids (fun hmoves => absurd hmoves hmove))
      fails h

open GateCall in
/-- **Which proposals can be finished.**  Let a proposal be evaluated and not at its end.  When it
does not wait for an approval, or its approval can be resolved at some time, a few calls of the
service take it to a terminal status, each of which returns.  When its approval was resolved
elsewhere, has expired or is gone, it keeps its status in every run of requests from then on,
each on a server of its own, whatever fails. -/
theorem finish_or_stuck (server : Server) (now : Instant) (rows : List Row)
    (p : RemediationProposalRow) (hkeys : (rows.map Row.key).Nodup) (hp : p ∈ proposals rows)
    (hs : p.status ∈ unfinished) :
    ((p.status = .policyEvaluated → Resolving now p rows) →
      ∃ calls : List GateCall, (∀ call ∈ calls, call.movesProposal = true ∧ call.NotBefore now) ∧
        Finishes server p.proposalId calls rows) ∧
    (p.status = .policyEvaluated → ¬ Resolving now p rows →
      ∀ calls : List ((Server × GateCall) × (ℕ → Option PyError)),
        EveryStep (uncurry after)
          (fun request _ _ => request.2.NotBefore now ∧ request.2.Avoids p) calls rows →
        ∃ q ∈ proposals (runCalls (uncurry after) calls rows),
          q.proposalId = p.proposalId ∧ q.status = .policyEvaluated) := by
  refine ⟨fun hopen => ?_, fun hwaiting hclosed calls hcalls => ?_⟩
  · by_cases hwaiting : p.status = .policyEvaluated
    · obtain ⟨reviewer, eventId, hfinishes⟩ := finishes_resolving hkeys hp hwaiting (hopen hwaiting)
      refine ⟨_, fun call hcall => ?_, hfinishes⟩
      rw [List.mem_singleton.mp hcall]
      exact ⟨rfl, le_rfl⟩
    · have hpassed : p.status ∈ [RemediationStatus.approved, .prCreated, .applied, .verifying] :=
        (List.mem_cons.mp hs).resolve_left hwaiting
      exact ⟨fromApproval p.proposalId p.driftSnapshot now p.status, moves_fromApproval _ _ _,
        finishes_fromApproval _ now ⟨hkeys, p, hp, rfl, rfl⟩ hpassed⟩
  · -- the run keeps what shuts the proposal off
    have hstuck : Stuck now p rows := ⟨hkeys, ⟨p, hp, rfl, hwaiting, rfl, rfl⟩, hclosed⟩
    have hend := runCalls_invariant (uncurry after) (I := Stuck now p)
      (fun request fails rows hcall h => stuck_after request.2 fails hcall.1 hcall.2 h) hcalls
      hstuck
    obtain ⟨q, hq, hid, hqs, -⟩ := hend.waiting
    exact ⟨q, hq, hid, hqs⟩

/-! ### Two stores -/

/-- A proposal that waits for the approval `a1`. -/
def waitingProposal : RemediationProposalRow :=
  ProposalUpdate.set {
    status := some .policyEvaluated
    decisionId := some "d1"
    approvalId := some "a1"
    policyVerdict := some .approvalRequired } "t"
    (NewProposal.row {
      tenantId := "platform", status := .proposed, source := "inventory_drift"
      remediationKind := "reprobe", driftSnapshot := probed false
      selectedAction := { kind := .reprobe, title := "", description := "" } } "p1" 0)

/-- The proposal with its decision, and its approval with a status. -/
def waitingFor (status : ApprovalStatus) : List Row :=
  [.decision {
      decisionId := "d1", requestId := "r1", finalVerdict := .approvalRequired
      policyBundleId := "", policyDigest := "", team := "platform", tenantId := "platform"
      environment := "production", model := "", subject := "remediation-bot", reasons := []
      stages := [], request := {}, requestDigest := "", agentCapabilityDigest := ""
      toolsCapabilityDigest := "", createdAt := "t" },
    .approval { newApproval "d1" 3600 "a1" 0 with status := status },
    .proposal waitingProposal]

open GateCall in
/-- The pending approval can be rejected with the proposal; once `bob` has approved it through its
own endpoint, the proposal waits for ever. -/
theorem finish_or_stuck_waiting :
    (∃ calls : List GateCall, (∀ call ∈ calls, call.movesProposal = true ∧ call.NotBefore 0) ∧
      Finishes demoServer "p1" calls (waitingFor .pending)) ∧
    ∀ reviewer eventId, ∃ q ∈ proposals (runCalls (uncurry after)
        [((demoServer, .resolveProposal "p1" true reviewer "" none eventId (fun _ => 1)),
          fun _ => none)]
        (waitingFor .approved)),
      q.proposalId = "p1" ∧ q.status = .policyEvaluated := by
  have hmem : ∀ status, waitingProposal ∈ proposals (waitingFor status) :=
    fun status => List.mem_singleton_self _
  have hkeys : ∀ status, ((waitingFor status).map Row.key).Nodup := by
    intro status
    show [RowKey.decision "d1", RowKey.approval "a1", RowKey.proposal "p1"].Nodup
    decide
  constructor
  · refine (finish_or_stuck demoServer 0 _ waitingProposal (hkeys .pending) (hmem _) (by decide)).1
      (fun _ => Or.inr ⟨⟨_, List.mem_singleton_self _, rfl, rfl, Or.inr ?_⟩,
        Or.inr ⟨_, List.mem_singleton_self _, rfl⟩⟩)
    decide +kernel
  · intro reviewer eventId
    refine (finish_or_stuck demoServer 0 _ waitingProposal (hkeys .approved) (hmem _) (by decide)).2
      rfl ?_ _ ⟨⟨(by decide : (0 : Instant) ≤ 1), fun draws hdraws => by cases hdraws⟩, trivial⟩
    rintro (hnone | ⟨⟨a, ha, -, hpending, -⟩, -⟩)
    · exact absurd hnone (by decide)
    · rw [List.mem_singleton.mp (show a ∈ [_] from ha)] at hpending
      cases hpending

end Requests

end ControlPlane.Remediation

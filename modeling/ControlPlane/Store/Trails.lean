/-
# The audit trail of the approvals

Every resolution and every consumption of an approval has its row in `audit_meta`, and no row
says what did not happen.  The module has the invariant and what each change of the rows does to
it.
-/
import ControlPlane.Persistence
import ControlPlane.Redemption
import ControlPlane.Store.Proposals

namespace ControlPlane

open Transaction

/-! ## What the audit rows say -/

/-- The resolution that an audit row records. -/
def resolutionOf (m : AuditMetaRow) : Option ApprovalStatus :=
  if m.eventType = "approval_approved" then some .approved
  else if m.eventType = "approval_rejected" then some .rejected
  else if m.eventType = "remediation_resolved" then
    match m.payload.lookup "status" with
    | some (.str status) => [ApprovalStatus.approved, .rejected].find? (fun s => s.name = status)
    | _ => none
  else none

/-- The audit row records the consumption of an approval. -/
def isConsumption (m : AuditMetaRow) : Bool := m.eventType = "approval_consumed"

/-- The resolution behind a status: what is consumed was approved. -/
def resolvedAs : ApprovalStatus → Option ApprovalStatus
  | .approved => some .approved
  | .consumed => some .approved
  | .rejected => some .rejected
  | _ => none

/-- The audit rows tell the history of an approval: its resolution with its reviewer, its
consumption, and nothing that did not happen. -/
structure Trail (metas : List AuditMetaRow) (a : ApprovalRow) : Prop where
  recorded : ∀ s, resolvedAs a.status = some s →
    ∃ m ∈ metas, m.decisionId = a.decisionId ∧ resolutionOf m = some s ∧ a.reviewer = some m.actor
  truthful : ∀ m ∈ metas, m.decisionId = a.decisionId → ∀ s, resolutionOf m = some s →
    resolvedAs a.status = some s
  consumed : metas.countP (fun m => m.decisionId = a.decisionId ∧ isConsumption m = true)
    = if a.status = .consumed then 1 else 0

section Trail

variable {metas : List AuditMetaRow} {a a' : ApprovalRow} {m : AuditMetaRow}

/-- A consumption is not a resolution. -/
theorem resolutionOf_consumption (h : isConsumption m = true) : resolutionOf m = none := by
  have htype : m.eventType = "approval_consumed" := of_decide_eq_true h
  unfold resolutionOf
  rw [htype, if_neg (by decide), if_neg (by decide), if_neg (by decide)]

/-- An approval that nothing has been said about. -/
theorem Trail.fresh (hpending : a.status = .pending)
    (hnone : ∀ m ∈ metas, m.decisionId ≠ a.decisionId) : Trail metas a where
  recorded s hs := by
    rw [hpending] at hs
    cases hs
  truthful m hm hid := absurd hid (hnone m hm)
  consumed := by
    rw [hpending, if_neg (by decide), List.countP_eq_zero]
    intro m hm h
    exact hnone m hm (of_decide_eq_true h).1

/-- Rows about other decisions, and rows about other events, do not matter. -/
theorem Trail.append_other (h : Trail metas a)
    (hother : m.decisionId ≠ a.decisionId ∨ resolutionOf m = none ∧ isConsumption m = false) :
    Trail (metas ++ [m]) a where
  recorded s hs := by
    obtain ⟨m', hm', hrest⟩ := h.recorded s hs
    exact ⟨m', List.mem_append_left _ hm', hrest⟩
  truthful m' hm' hid s hs := by
    rcases List.mem_append.mp hm' with hm' | hm'
    · exact h.truthful m' hm' hid s hs
    · obtain rfl := List.mem_singleton.mp hm'
      rcases hother with hne | ⟨hnone, -⟩
      · exact absurd hid hne
      · rw [hnone] at hs
        cases hs
  consumed := by
    have hskip : ¬ decide (m.decisionId = a.decisionId ∧ isConsumption m = true) = true := by
      intro hm
      obtain ⟨hid, hconsumption⟩ := of_decide_eq_true hm
      rcases hother with hne | ⟨-, hnot⟩
      · exact hne hid
      · rw [hnot] at hconsumption
        cases hconsumption
    rw [List.countP_append, h.consumed, List.countP_singleton, if_neg hskip, Nat.add_zero]

theorem Trail.append_others {metas' : List AuditMetaRow} (h : Trail metas a)
    (hother : ∀ m ∈ metas', m.decisionId ≠ a.decisionId ∨
      resolutionOf m = none ∧ isConsumption m = false) : Trail (metas ++ metas') a := by
  induction metas' generalizing metas with
  | nil =>
    rw [List.append_nil]
    exact h
  | cons m metas' ih =>
    rw [List.append_cons]
    exact ih (h.append_other (hother m List.mem_cons_self))
      (fun m' hm' => hother m' (List.mem_cons_of_mem _ hm'))

/-- A pending approval that expires has still nothing to tell. -/
theorem Trail.expire (h : Trail metas a) (hpending : a.status = .pending)
    (hid : a'.decisionId = a.decisionId) (hexpired : a'.status = .expired) : Trail metas a' where
  recorded s hs := by
    rw [hexpired] at hs
    cases hs
  truthful m hm hm' s hs := by
    have hnone := h.truthful m hm (hm'.trans hid) s hs
    rw [hpending] at hnone
    cases hnone
  consumed := by
    have hnone := h.consumed
    rw [hpending] at hnone
    rw [hid, hexpired]
    exact hnone

/-- **A resolution and its audit row.** -/
theorem Trail.resolve (h : Trail metas a) (hpending : a.status = .pending) {s : ApprovalStatus}
    (hid : a'.decisionId = a.decisionId) (hstatus : a'.status = s)
    (hresolved : s = .approved ∨ s = .rejected) (hreviewer : a'.reviewer = some m.actor)
    (hm : m.decisionId = a.decisionId) (hrow : resolutionOf m = some s) :
    Trail (metas ++ [m]) a' where
  recorded s' hs' := by
    have hsame : s' = s := by
      rw [hstatus] at hs'
      rcases hresolved with rfl | rfl <;> cases hs' <;> rfl
    rw [hsame]
    exact ⟨m, List.mem_append_right _ (List.mem_singleton_self m), hm.trans hid.symm, hrow,
      hreviewer⟩
  truthful m' hm' hid' s' hs' := by
    rcases List.mem_append.mp hm' with hm' | hm'
    · have hnone := h.truthful m' hm' (hid'.trans hid) s' hs'
      rw [hpending] at hnone
      cases hnone
    · obtain rfl := List.mem_singleton.mp hm'
      rw [hrow] at hs'
      cases hs'
      rw [hstatus]
      rcases hresolved with rfl | rfl <;> rfl
  consumed := by
    have hnone := h.consumed
    have hnot : ¬ isConsumption m = true := by
      intro hconsumption
      rw [resolutionOf_consumption hconsumption] at hrow
      cases hrow
    have hleft : ¬ s = .consumed := by
      rcases hresolved with rfl | rfl <;> decide
    rw [hpending, if_neg (by decide)] at hnone
    rw [hid, hstatus, if_neg hleft, List.countP_append, hnone, List.countP_singleton,
      if_neg (fun h => hnot (of_decide_eq_true h).2)]

/-- **A consumption and its audit row.** -/
theorem Trail.consume (h : Trail metas a) (happroved : a.status = .approved)
    (hid : a'.decisionId = a.decisionId) (hstatus : a'.status = .consumed)
    (hreviewer : a'.reviewer = a.reviewer) (hm : m.decisionId = a.decisionId)
    (hrow : isConsumption m = true) : Trail (metas ++ [m]) a' where
  recorded s hs := by
    rw [hstatus] at hs
    obtain ⟨m', hm', hid', hs', hactor⟩ := h.recorded s (by rw [happroved]; exact hs)
    exact ⟨m', List.mem_append_left _ hm', hid'.trans hid.symm, hs', hreviewer.trans hactor⟩
  truthful m' hm' hid' s hs := by
    rcases List.mem_append.mp hm' with hm' | hm'
    · have happ := h.truthful m' hm' (hid'.trans hid) s hs
      rw [happroved] at happ
      rw [hstatus]
      exact happ
    · obtain rfl := List.mem_singleton.mp hm'
      rw [resolutionOf_consumption hrow] at hs
      cases hs
  consumed := by
    have hnone := h.consumed
    rw [happroved, if_neg (by decide)] at hnone
    rw [hid, hstatus, if_pos rfl, List.countP_append, hnone, List.countP_singleton,
      if_pos (decide_eq_true ⟨hm, hrow⟩)]

end Trail

/-! ## The invariant -/

/-- What holds of the rows between two requests. -/
structure Audited (rows : List Row) : Prop where
  keys : (rows.map Row.key).Nodup
  /-- the decision of an approval is there -/
  decidedApproval : ∀ a ∈ approvals rows, ∃ d ∈ decisions rows, d.decisionId = a.decisionId
  /-- the decision of an audit row is there -/
  decidedMeta : ∀ m ∈ auditMetas rows, ∃ d ∈ decisions rows, d.decisionId = m.decisionId
  /-- a decision has one approval at most -/
  distinct : ((approvals rows).map ApprovalRow.decisionId).Nodup
  trail : ∀ a ∈ approvals rows, Trail (auditMetas rows) a
  /-- a proposal has no approval before it is evaluated -/
  unevaluated : ∀ p ∈ proposals rows, p.status = .detected ∨ p.status = .proposed →
    p.approvalId = none
  /-- the approval of a proposal is there, and the two belong to one decision -/
  linked : ∀ p ∈ proposals rows, p.approvalId.getD "" ≠ "" → ∃ a ∈ approvals rows,
    p.approvalId = some a.approvalId ∧ p.decisionId = some a.decisionId ∧ a.decisionId ≠ ""

section Audited

variable {rows : List Row}

/-- The rows of a store without approvals, audit rows and proposals. -/
theorem audited_of_empty (hkeys : (rows.map Row.key).Nodup) (happrovals : approvals rows = [])
    (hmetas : auditMetas rows = []) (hproposals : proposals rows = []) : Audited rows where
  keys := hkeys
  decidedApproval := by
    rw [happrovals]
    exact fun a ha => absurd ha List.not_mem_nil
  decidedMeta := by
    rw [hmetas]
    exact fun m hm => absurd hm List.not_mem_nil
  distinct := by
    rw [happrovals]
    exact List.nodup_nil
  trail := by
    rw [happrovals]
    exact fun a ha => absurd ha List.not_mem_nil
  unevaluated := by
    rw [hproposals]
    exact fun p hp => absurd hp List.not_mem_nil
  linked := by
    rw [hproposals]
    exact fun p hp => absurd hp List.not_mem_nil

/-- Two approvals with one decision are the same. -/
theorem Audited.eq_of_decision (h : Audited rows) {a b : ApprovalRow} (ha : a ∈ approvals rows)
    (hb : b ∈ approvals rows) (hid : a.decisionId = b.decisionId) : a = b :=
  List.inj_on_of_nodup_map h.distinct ha hb hid

/-- Two approvals with one id are the same. -/
theorem Audited.eq_of_id (h : Audited rows) {a b : ApprovalRow} (ha : a ∈ approvals rows)
    (hb : b ∈ approvals rows) (hid : a.approvalId = b.approvalId) : a = b := by
  have hsame : Row.approval a = Row.approval b :=
    List.inj_on_of_nodup_map h.keys ((mem_approvals rows).mp ha) ((mem_approvals rows).mp hb)
      (congrArg RowKey.approval hid)
  cases hsame
  rfl

/-- Two proposals with one id are the same. -/
theorem Audited.eq_of_proposal (h : Audited rows) {p q : RemediationProposalRow}
    (hp : p ∈ proposals rows) (hq : q ∈ proposals rows) (hid : p.proposalId = q.proposalId) :
    p = q := by
  have hsame : Row.proposal p = Row.proposal q :=
    List.inj_on_of_nodup_map h.keys ((mem_proposals rows).mp hp) ((mem_proposals rows).mp hq)
      (congrArg RowKey.proposal hid)
  cases hsame
  rfl

theorem Audited.find (h : Audited rows) {a : ApprovalRow} (ha : a ∈ approvals rows) :
    findApproval rows a.approvalId = some a := by
  cases hfind : findApproval rows a.approvalId with
  | none =>
    have hnone := List.find?_eq_none.mp hfind a ha
    exact absurd (decide_eq_true rfl) hnone
  | some b =>
    obtain ⟨hid, hb⟩ := findApproval_some hfind
    rw [h.eq_of_id hb ha hid]

section AuditRows

variable (metas : List AuditMetaRow)

theorem decisions_auditRows : decisions (metas.map Row.auditMeta) = [] := by
  induction metas with
  | nil => rfl
  | cons m metas ih => exact ih

theorem approvals_auditRows : approvals (metas.map Row.auditMeta) = [] := by
  induction metas with
  | nil => rfl
  | cons m metas ih => exact ih

theorem proposals_auditRows : proposals (metas.map Row.auditMeta) = [] := by
  induction metas with
  | nil => rfl
  | cons m metas ih => exact ih

theorem auditMetas_auditRows : auditMetas (metas.map Row.auditMeta) = metas := by
  induction metas with
  | nil => rfl
  | cons m metas ih => exact congrArg (m :: ·) ih

end AuditRows

/-- **Approvals are updated, and audit rows are added** that fit. -/
theorem Audited.update {guard : ApprovalRow → Bool} {set : ApprovalRow → ApprovalRow}
    {metas : List AuditMetaRow} (h : Audited rows)
    (hid : ∀ a, (set a).approvalId = a.approvalId)
    (hdecision : ∀ a, (set a).decisionId = a.decisionId)
    (hkeys : ((rows ++ metas.map Row.auditMeta).map Row.key).Nodup)
    (hmetas : ∀ m ∈ metas, ∃ d ∈ decisions rows, d.decisionId = m.decisionId)
    (htrail : ∀ a ∈ approvals rows,
      Trail (auditMetas rows ++ metas) (updatedApproval guard set a)) :
    Audited ((updateApprovals guard set).apply rows ++ metas.map Row.auditMeta) := by
  have hnew : ∀ a, (updatedApproval guard set a).decisionId = a.decisionId := by
    intro a
    unfold updatedApproval
    split
    · exact hdecision a
    · rfl
  have hd : decisions ((updateApprovals guard set).apply rows ++ metas.map Row.auditMeta)
      = decisions rows := by
    rw [decisions_append, decisions_update, decisions_auditRows, List.append_nil]
  have ha : approvals ((updateApprovals guard set).apply rows ++ metas.map Row.auditMeta)
      = (approvals rows).map (updatedApproval guard set) := by
    rw [approvals_append, approvals_update, approvals_auditRows, List.append_nil]
  have hm : auditMetas ((updateApprovals guard set).apply rows ++ metas.map Row.auditMeta)
      = auditMetas rows ++ metas := by
    rw [auditMetas_append, auditMetas_update, auditMetas_auditRows]
  have hp : proposals ((updateApprovals guard set).apply rows ++ metas.map Row.auditMeta)
      = proposals rows := by
    rw [proposals_append, proposals_update, proposals_auditRows, List.append_nil]
  exact {
    keys := by
      rw [List.map_append, keys_update hid, ← List.map_append]
      exact hkeys
    decidedApproval := by
      rw [ha, hd]
      intro a ha'
      obtain ⟨b, hb, rfl⟩ := List.mem_map.mp ha'
      rw [hnew]
      exact h.decidedApproval b hb
    decidedMeta := by
      rw [hm, hd]
      intro m hm'
      rcases List.mem_append.mp hm' with hm' | hm'
      · exact h.decidedMeta m hm'
      · exact hmetas m hm'
    distinct := by
      rw [ha, List.map_map]
      have hsame : ApprovalRow.decisionId ∘ updatedApproval guard set = ApprovalRow.decisionId :=
        funext hnew
      rw [hsame]
      exact h.distinct
    trail := by
      rw [ha, hm]
      intro a ha'
      obtain ⟨b, hb, rfl⟩ := List.mem_map.mp ha'
      exact htrail b hb
    unevaluated := by
      rw [hp]
      exact h.unevaluated
    linked := by
      rw [hp, ha]
      intro p hp' hlink
      obtain ⟨a, ha', hpid, hpd, hne⟩ := h.linked p hp' hlink
      refine ⟨updatedApproval guard set a, List.mem_map_of_mem ha', ?_, ?_, ?_⟩
      · rw [updatedApproval_id hid]
        exact hpid
      · rw [hnew]
        exact hpd
      · rw [hnew]
        exact hne }

theorem Audited.expire (h : Audited rows) (approvalId now : String) :
    Audited ((expireChange approvalId now).apply rows) := by
  have hupdated : Audited ((expireChange approvalId now).apply rows
      ++ ([] : List AuditMetaRow).map Row.auditMeta) := by
    refine h.update (fun _ => rfl) (fun _ => rfl) ?_ (fun m hm => absurd hm List.not_mem_nil)
      (fun a ha => ?_)
    · rw [List.map_nil, List.append_nil]
      exact h.keys
    · rw [List.append_nil]
      unfold updatedApproval
      split
      · rename_i hguard
        exact (h.trail a ha).expire (of_decide_eq_true hguard).2 rfl rfl
      · exact h.trail a ha
  rw [List.map_nil, List.append_nil] at hupdated
  exact hupdated

/-- **One approval moves, and an audit row says so.** -/
theorem Audited.move {guard : ApprovalRow → Bool} {set : ApprovalRow → ApprovalRow}
    {a : ApprovalRow} {m : AuditMetaRow} (h : Audited rows) (ha : a ∈ approvals rows)
    (hid : ∀ a, (set a).approvalId = a.approvalId)
    (hdecision : ∀ a, (set a).decisionId = a.decisionId)
    (hguard : ∀ b ∈ approvals rows, guard b = true ↔ b = a) (hm : m.decisionId = a.decisionId)
    (hfresh : .auditMeta m.eventId ∉ rows.map Row.key)
    (htrail : Trail (auditMetas rows ++ [m]) (set a)) :
    Audited ((updateApprovals guard set).apply rows ++ [.auditMeta m]) := by
  show Audited (_ ++ [m].map Row.auditMeta)
  refine h.update hid hdecision ?_ ?_ (fun b hb => ?_)
  · rw [List.map_append, List.nodup_append]
    refine ⟨h.keys, List.nodup_singleton _, fun key hkey key' hkey' hsame => ?_⟩
    rw [hsame, List.mem_singleton.mp hkey'] at hkey
    exact hfresh hkey
  · intro m' hm'
    rw [List.mem_singleton.mp hm', hm]
    exact h.decidedApproval a ha
  · unfold updatedApproval
    by_cases hb' : b = a
    · rw [if_pos ((hguard b hb).mpr hb'), hb']
      exact htrail
    · rw [if_neg (fun hg => hb' ((hguard b hb).mp hg))]
      refine (h.trail b hb).append_other (Or.inl (fun hsame => hb' ?_))
      exact h.eq_of_decision hb ha (hsame.symm.trans hm)

/-- An approval is resolved, and the resolution is recorded. -/
theorem Audited.resolve (h : Audited rows) {a : ApprovalRow} {m : AuditMetaRow}
    {status : ApprovalStatus} {comment now : String} (ha : a ∈ approvals rows)
    (hpending : a.status = .pending) (hstatus : status = .approved ∨ status = .rejected)
    (hm : m.decisionId = a.decisionId) (hrow : resolutionOf m = some status)
    (hfresh : .auditMeta m.eventId ∉ rows.map Row.key) :
    Audited ((resolveChange a.approvalId status m.actor comment now).apply rows
      ++ [.auditMeta m]) := by
  refine h.move ha (fun _ => rfl) (fun _ => rfl) (fun b hb => ?_) hm hfresh
    ((h.trail a ha).resolve hpending rfl rfl hstatus rfl hm hrow)
  constructor
  · exact fun hguard => h.eq_of_id hb ha (of_decide_eq_true hguard).1
  · rintro rfl
    exact decide_eq_true ⟨rfl, hpending⟩

/-- An approval is consumed, and the consumption is recorded. -/
theorem Audited.consume (h : Audited rows) {a : ApprovalRow} {m : AuditMetaRow} {now : String}
    (ha : a ∈ approvals rows) (hopen : a.isOpen = true) (hm : m.decisionId = a.decisionId)
    (hrow : isConsumption m = true) (hfresh : .auditMeta m.eventId ∉ rows.map Row.key) :
    Audited ((consumeChange a.approvalId now).apply rows ++ [.auditMeta m]) := by
  obtain ⟨happroved, hunused⟩ := ApprovalRow.isOpen_iff.mp hopen
  refine h.move ha (fun _ => rfl) (fun _ => rfl) (fun b hb => ?_) hm hfresh
    ((h.trail a ha).consume happroved rfl rfl rfl hm hrow)
  constructor
  · exact fun hguard => h.eq_of_id hb ha (of_decide_eq_true hguard).1
  · rintro rfl
    exact decide_eq_true ⟨rfl, happroved, hunused⟩

/-! ## Insertions, and updates of proposals -/

/-- **A decision is recorded**, perhaps with a pending approval, and with audit rows that say
nothing about what becomes of it. -/
theorem Audited.record (h : Audited rows) {rows' : List Row} (decisionId : String)
    (hkeys : ((rows ++ rows').map Row.key).Nodup)
    (hnew : ∀ d ∈ decisions rows, d.decisionId ≠ decisionId)
    (hdecision : ∃ d ∈ decisions rows', d.decisionId = decisionId)
    (hone : (approvals rows').length ≤ 1)
    (happrovals : ∀ a ∈ approvals rows', a.decisionId = decisionId ∧ a.status = .pending)
    (hmetas : ∀ m ∈ auditMetas rows', m.decisionId = decisionId ∧ resolutionOf m = none ∧
      isConsumption m = false)
    (hproposals : proposals rows' = []) : Audited (rows ++ rows') where
  keys := hkeys
  decidedApproval := by
    rw [approvals_append, decisions_append]
    intro a ha
    rcases List.mem_append.mp ha with ha | ha
    · obtain ⟨d, hd, hid⟩ := h.decidedApproval a ha
      exact ⟨d, List.mem_append_left _ hd, hid⟩
    · obtain ⟨d, hd, hid⟩ := hdecision
      exact ⟨d, List.mem_append_right _ hd, hid.trans (happrovals a ha).1.symm⟩
  decidedMeta := by
    rw [auditMetas_append, decisions_append]
    intro m hm
    rcases List.mem_append.mp hm with hm | hm
    · obtain ⟨d, hd, hid⟩ := h.decidedMeta m hm
      exact ⟨d, List.mem_append_left _ hd, hid⟩
    · obtain ⟨d, hd, hid⟩ := hdecision
      exact ⟨d, List.mem_append_right _ hd, hid.trans (hmetas m hm).1.symm⟩
  distinct := by
    rw [approvals_append, List.map_append, List.nodup_append]
    refine ⟨h.distinct, ?_, ?_⟩
    · match hrows : approvals rows' with
      | [] => exact List.nodup_nil
      | [a] => exact List.nodup_singleton _
      | a :: b :: rest =>
        rw [hrows] at hone
        exact absurd hone (by simp)
    · intro id hid id' hid' hsame
      obtain ⟨a, ha, rfl⟩ := List.mem_map.mp hid
      obtain ⟨b, hb, rfl⟩ := List.mem_map.mp hid'
      obtain ⟨d, hd, hdid⟩ := h.decidedApproval a ha
      exact hnew d hd (hdid.trans (hsame.trans (happrovals b hb).1))
  trail := by
    rw [approvals_append, auditMetas_append]
    intro a ha
    have hsilent : ∀ m ∈ auditMetas rows', m.decisionId ≠ a.decisionId ∨
        resolutionOf m = none ∧ isConsumption m = false :=
      fun m hm => Or.inr (hmetas m hm).2
    rcases List.mem_append.mp ha with ha | ha
    · exact (h.trail a ha).append_others hsilent
    · refine (Trail.fresh (happrovals a ha).2 (fun m hm hid => ?_)).append_others hsilent
      obtain ⟨d, hd, hdid⟩ := h.decidedMeta m hm
      exact hnew d hd (hdid.trans (hid.trans (happrovals a ha).1))
  unevaluated := by
    rw [proposals_append, hproposals, List.append_nil]
    exact h.unevaluated
  linked := by
    rw [proposals_append, hproposals, List.append_nil, approvals_append]
    intro p hp hlink
    obtain ⟨a, ha, hrest⟩ := h.linked p hp hlink
    exact ⟨a, List.mem_append_left _ ha, hrest⟩

/-- A proposal is opened. -/
theorem Audited.open (h : Audited rows) {p : RemediationProposalRow}
    (hfresh : .proposal p.proposalId ∉ rows.map Row.key) (hnone : p.approvalId = none) :
    Audited (rows ++ [.proposal p]) where
  keys := by
    rw [List.map_append, List.nodup_append]
    refine ⟨h.keys, List.nodup_singleton _, fun key hkey key' hkey' hsame => ?_⟩
    rw [hsame, List.mem_singleton.mp hkey'] at hkey
    exact hfresh hkey
  decidedApproval := by simpa using h.decidedApproval
  decidedMeta := by simpa using h.decidedMeta
  distinct := by simpa using h.distinct
  trail := by simpa using h.trail
  unevaluated := by
    rw [proposals_append]
    intro p' hp' hstatus
    rcases List.mem_append.mp hp' with hp' | hp'
    · exact h.unevaluated p' hp' hstatus
    · rw [List.mem_singleton.mp hp']
      exact hnone
  linked := by
    rw [proposals_append, approvals_append]
    intro p' hp' hlink
    rcases List.mem_append.mp hp' with hp' | hp'
    · obtain ⟨a, ha, hrest⟩ := h.linked p' hp' hlink
      exact ⟨a, List.mem_append_left _ ha, hrest⟩
    · rw [List.mem_singleton.mp hp', hnone] at hlink
      exact absurd rfl hlink

/-- **A proposal is updated** in step with its approval. -/
theorem Audited.updateProposal (h : Audited rows) {proposalId now : String} {u : ProposalUpdate}
    (hset : ∀ p ∈ proposals rows, p.proposalId = proposalId →
      (u.set now p).status ≠ .detected ∧ (u.set now p).status ≠ .proposed ∧
        ((u.set now p).approvalId.getD "" ≠ "" → ∃ a ∈ approvals rows,
          (u.set now p).approvalId = some a.approvalId ∧
          (u.set now p).decisionId = some a.decisionId ∧ a.decisionId ≠ "")) :
    Audited ((updateProposalChange proposalId u now).apply rows) where
  keys := by
    rw [keys_updateProposal]
    exact h.keys
  decidedApproval := by
    rw [approvals_updateProposal, decisions_updateProposal]
    exact h.decidedApproval
  decidedMeta := by
    rw [auditMetas_updateProposal, decisions_updateProposal]
    exact h.decidedMeta
  distinct := by
    rw [approvals_updateProposal]
    exact h.distinct
  trail := by
    rw [approvals_updateProposal, auditMetas_updateProposal]
    exact h.trail
  unevaluated := by
    rw [proposals_updateProposal]
    intro p hp hstatus
    obtain ⟨q, hq, rfl⟩ := List.mem_map.mp hp
    unfold updatedProposal at hstatus ⊢
    by_cases hid : q.proposalId = proposalId
    · rw [if_pos hid] at hstatus
      obtain ⟨hdetected, hproposed, -⟩ := hset q hq hid
      exact absurd hstatus (not_or.mpr ⟨hdetected, hproposed⟩)
    · rw [if_neg hid] at hstatus ⊢
      exact h.unevaluated q hq hstatus
  linked := by
    rw [proposals_updateProposal, approvals_updateProposal]
    intro p hp hlink
    obtain ⟨q, hq, rfl⟩ := List.mem_map.mp hp
    unfold updatedProposal at hlink ⊢
    by_cases hid : q.proposalId = proposalId
    · rw [if_pos hid] at hlink ⊢
      exact (hset q hq hid).2.2 hlink
    · rw [if_neg hid] at hlink ⊢
      exact h.linked q hq hlink

end Audited

end ControlPlane

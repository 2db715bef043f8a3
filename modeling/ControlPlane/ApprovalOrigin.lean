/-
# Where an approval comes from

An approval belongs to the decision that it was created for.  Whatever is requested afterwards
changes neither the decision nor that it is the one of the approval.
-/
import ControlPlane.RemediationTenants

namespace ControlPlane.ApprovalOrigin

open Transaction Remediation

-- what the endpoints compute between their statements is not evaluated
attribute [local irreducible] headerText runBundle enrichGovernanceRequest PolicyProcess.catchUp
  Server.grantedResponse

/-! ## The decision of an approval -/

/-- The approval belongs to the decision, of which `P` holds. -/
structure Origin (approvalId decisionId : String) (P : DecisionRow → Prop) (rows : List Row) :
    Prop where
  keys : (rows.map Row.key).Nodup
  approval : ∀ a ∈ approvals rows, a.approvalId = approvalId →
    a.decisionId = decisionId ∧ ∃ d ∈ decisions rows, d.decisionId = decisionId
  decision : ∀ d ∈ decisions rows, d.decisionId = decisionId → P d

section Origin

variable {approvalId decisionId : String} {P : DecisionRow → Prop} {rows : List Row}

/-- Nothing has these ids. -/
theorem origin_of_fresh (hkeys : (rows.map Row.key).Nodup)
    (happroval : RowKey.approval approvalId ∉ rows.map Row.key)
    (hdecision : RowKey.decision decisionId ∉ rows.map Row.key) :
    Origin approvalId decisionId P rows where
  keys := hkeys
  approval a ha hid := by
    have hmem := List.mem_map_of_mem (f := Row.key) ((mem_approvals rows).mp ha)
    exact absurd (hid ▸ hmem) happroval
  decision d hd hid := by
    have hmem := List.mem_map_of_mem (f := Row.key) ((mem_decisions rows).mp hd)
    exact absurd (hid ▸ hmem) hdecision

theorem Origin.update {guard : ApprovalRow → Bool} {set : ApprovalRow → ApprovalRow}
    (h : Origin approvalId decisionId P rows)
    (hid : ∀ a, (set a).approvalId = a.approvalId) (hd : ∀ a, (set a).decisionId = a.decisionId) :
    Origin approvalId decisionId P ((updateApprovals guard set).apply rows) where
  keys := by
    rw [keys_update hid]
    exact h.keys
  approval a' ha' haid := by
    rw [approvals_update, List.mem_map] at ha'
    obtain ⟨a, ha, rfl⟩ := ha'
    rw [updatedApproval_id hid] at haid
    rw [decisions_update]
    obtain ⟨hdid, hdecided⟩ := h.approval a ha haid
    refine ⟨?_, hdecided⟩
    unfold updatedApproval
    split
    · exact (hd a).trans hdid
    · exact hdid
  decision d hd' := by
    rw [decisions_update] at hd'
    exact h.decision d hd'

theorem Origin.insert {row : Row} (h : Origin approvalId decisionId P rows)
    (hadmits : schema.admits rows row = true)
    (happroval : ∀ a ∈ approvals [row], a.approvalId = approvalId →
      a.decisionId = decisionId ∧ ∃ d ∈ decisions rows, d.decisionId = decisionId)
    (hdecision : ∀ d ∈ decisions [row], d.decisionId = decisionId → P d) :
    Origin approvalId decisionId P (rows ++ [row]) where
  keys := nodup_insert h.keys hadmits
  approval a ha haid := by
    have hfound : a.decisionId = decisionId ∧ ∃ d ∈ decisions rows, d.decisionId = decisionId := by
      rw [approvals_append, List.mem_append] at ha
      rcases ha with ha | ha
      · exact h.approval a ha haid
      · exact happroval a ha haid
    obtain ⟨hdid, d, hd, hid⟩ := hfound
    refine ⟨hdid, d, ?_, hid⟩
    rw [decisions_append]
    exact List.mem_append_left _ hd
  decision d hd hid := by
    rw [decisions_append, List.mem_append] at hd
    rcases hd with hd | hd
    · exact h.decision d hd hid
    · exact hdecision d hd hid

/-- **Rows are deleted**, and with a decision its approvals. -/
theorem Origin.delete {c : Change Row} (h : Origin approvalId decisionId P rows)
    (hset : ∀ r, c.set r = none)
    (hcascade : ∀ a d, c.guard (.decision d) = true → d.decisionId = a.decisionId →
      c.guard (.approval a) = true) : Origin approvalId decisionId P (c.apply rows) := by
  have hsub := (Change.apply_sublist hset rows).subset
  refine ⟨h.keys.sublist ((Change.apply_sublist hset rows).map Row.key), fun a ha haid => ?_,
    fun d hd hid => h.decision d ((mem_decisions rows).mpr (hsub ((mem_decisions _).mp hd))) hid⟩
  rw [Persistence.apply_delete hset, mem_approvals, List.mem_filter] at ha
  obtain ⟨hmem, hkept⟩ := ha
  obtain ⟨hdid, d, hd, hid⟩ := h.approval a ((mem_approvals rows).mpr hmem) haid
  refine ⟨hdid, d, ?_, hid⟩
  rw [Persistence.apply_delete hset, mem_decisions, List.mem_filter]
  refine ⟨(mem_decisions rows).mp hd, ?_⟩
  -- the decision of an approval that stays has stayed
  by_contra hgone
  have hguard : c.guard (.decision d) = true := by simpa using hgone
  rw [hcascade a d hguard (hid.trans hdid.symm)] at hkept
  cases hkept

theorem Origin.moveProposal {proposalId : String} {u : ProposalUpdate} {time : String}
    (h : Origin approvalId decisionId P rows) :
    Origin approvalId decisionId P ((updateProposalChange proposalId u time).apply rows) where
  keys := by
    rw [keys_updateProposal]
    exact h.keys
  approval := by
    rw [approvals_updateProposal, decisions_updateProposal]
    exact h.approval
  decision := by
    rw [decisions_updateProposal]
    exact h.decision

/-- A row that is neither an approval nor a decision. -/
theorem Origin.insertOther {row : Row} (h : Origin approvalId decisionId P rows)
    (hadmits : schema.admits rows row = true) (happroval : approvals [row] = [])
    (hdecision : decisions [row] = []) : Origin approvalId decisionId P (rows ++ [row]) := by
  refine h.insert hadmits (fun a ha => ?_) (fun d hd => ?_)
  · rw [happroval] at ha
    cases ha
  · rw [hdecision] at hd
    cases hd

end Origin

/-! ## Runs -/

/-- **What follows** does not change the decision. -/
theorem origin_after {server : Server} {approvalId decisionId : String}
    {P : DecisionRow → Prop} (call : GateCall) (fails : ℕ → Option PyError) {rows : List Row}
    (hdraws : ∀ draws ∈ call.draws, draws.approvalId ≠ approvalId ∧ draws.decisionId ≠ decisionId)
    (h : Origin approvalId decisionId P rows) :
    Origin approvalId decisionId P (call.after server fails rows) := by
  refine GateCall.after_keeps (GateCall.issues_program call ?_ ?_ ?_ ?_ ?_ ?_ ?_ ?_ ?_ ?_) fails h
  · exact fun _ _ rows h => h.update (fun _ => rfl) (fun _ => rfl)
  · exact fun _ rows h => h.update (fun _ => rfl) (fun _ => rfl)
  · exact fun _ _ _ rows h => h.update (fun _ => rfl) (fun _ => rfl)
  · exact fun _ _ _ _ _ _ _ rows h => h.update (fun _ => rfl) (fun _ => rfl)
  · have hother : ∀ c : Change Row, (∀ r, c.set r = none) →
        (∀ d : DecisionRow, c.guard (.decision d) = false) →
        Prog.Preserves schema (Origin approvalId decisionId P) (.change c) := by
      intro c hset hguard rows h
      refine h.delete hset (fun _ d hd => ?_)
      rw [hguard d] at hd
      cases hd
    refine fun _ ids => ⟨hother _ (fun _ => rfl) (fun _ => rfl),
      hother _ (fun _ => rfl) (fun _ => rfl),
      fun rows h => h.delete (fun _ => rfl) (fun a d hguard hid => ?_)⟩
    have hmem : d.decisionId ∈ ids := of_decide_eq_true hguard
    exact decide_eq_true (hid ▸ hmem)
  · exact fun m rows h hadmits => h.insertOther hadmits rfl rfl
  · intro draws hdrawn new now rows h hadmits
    refine h.insert hadmits (fun a ha => absurd ha List.not_mem_nil) (fun d hd hid => ?_)
    rw [List.mem_singleton.mp (show d ∈ [_] from hd)] at hid
    exact absurd hid (hdraws draws hdrawn).2
  · intro draws hdrawn ttlSeconds now rows h hadmits
    refine h.insert hadmits (fun a ha hid => ?_) (fun d hd => absurd hd List.not_mem_nil)
    rw [List.mem_singleton.mp (show a ∈ [_] from ha)] at hid
    exact absurd hid (hdraws draws hdrawn).1
  · exact fun p _ rows h hadmits => h.insertOther hadmits rfl rfl
  · exact fun _ proposalId u now rows h => h.moveProposal

end ControlPlane.ApprovalOrigin

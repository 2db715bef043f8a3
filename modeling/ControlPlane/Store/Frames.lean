/-
# What a statement leaves of the tables

An update of approvals changes that table only, and keeps the keys; an insertion adds one
row to one table.  With these facts a read after a write is computed from the tables
before it.
-/
import ControlPlane.Store.Approvals
import ControlPlane.Store.Proposals

namespace ControlPlane

open Transaction

/-! ## The tables of a list of rows -/

attribute [simp] Row.decision? Row.approval? Row.auditMeta? Row.capability? Row.policyBundle?
  Row.proposal?

section Tables

variable (row : Row) (rows rows' : List Row)

@[simp] theorem decisions_nil : decisions [] = [] := rfl
@[simp] theorem approvals_nil : approvals [] = [] := rfl
@[simp] theorem auditMetas_nil : auditMetas [] = [] := rfl
@[simp] theorem capabilities_nil : capabilities [] = [] := rfl
@[simp] theorem proposals_nil : proposals [] = [] := rfl

@[simp] theorem decisions_append :
    decisions (rows ++ rows') = decisions rows ++ decisions rows' := List.filterMap_append

@[simp] theorem approvals_append :
    approvals (rows ++ rows') = approvals rows ++ approvals rows' := List.filterMap_append

@[simp] theorem auditMetas_append :
    auditMetas (rows ++ rows') = auditMetas rows ++ auditMetas rows' := List.filterMap_append

@[simp] theorem capabilities_append :
    capabilities (rows ++ rows') = capabilities rows ++ capabilities rows' :=
  List.filterMap_append

@[simp] theorem proposals_append :
    proposals (rows ++ rows') = proposals rows ++ proposals rows' := List.filterMap_append

@[simp] theorem decisions_cons :
    decisions (row :: rows) = row.decision?.toList ++ decisions rows := by
  cases row <;> rfl

@[simp] theorem approvals_cons :
    approvals (row :: rows) = row.approval?.toList ++ approvals rows := by
  cases row <;> rfl

@[simp] theorem auditMetas_cons :
    auditMetas (row :: rows) = row.auditMeta?.toList ++ auditMetas rows := by
  cases row <;> rfl

@[simp] theorem capabilities_cons :
    capabilities (row :: rows) = row.capability?.toList ++ capabilities rows := by
  cases row <;> rfl

@[simp] theorem proposals_cons :
    proposals (row :: rows) = row.proposal?.toList ++ proposals rows := by
  cases row <;> rfl

/-- The decisions are rows. -/
theorem mem_decisions {d : DecisionRow} : d ∈ decisions rows ↔ Row.decision d ∈ rows := by
  induction rows with
  | nil => simp only [decisions_nil, List.not_mem_nil]
  | cons row rows ih =>
    rw [decisions_cons, List.mem_append, ih, List.mem_cons]
    cases row <;> simp [eq_comm]

/-- The audit rows are rows. -/
theorem mem_auditMetas {m : AuditMetaRow} : m ∈ auditMetas rows ↔ Row.auditMeta m ∈ rows := by
  induction rows with
  | nil => simp only [auditMetas_nil, List.not_mem_nil]
  | cons row rows ih =>
    rw [auditMetas_cons, List.mem_append, ih, List.mem_cons]
    cases row <;> simp [eq_comm]

/-- The approvals are rows. -/
theorem mem_approvals {a : ApprovalRow} : a ∈ approvals rows ↔ Row.approval a ∈ rows := by
  induction rows with
  | nil => simp only [approvals_nil, List.not_mem_nil]
  | cons row rows ih =>
    rw [approvals_cons, List.mem_append, ih, List.mem_cons]
    cases row <;> simp

/-- The proposals are rows. -/
theorem mem_proposals {p : RemediationProposalRow} :
    p ∈ proposals rows ↔ Row.proposal p ∈ rows := by
  induction rows with
  | nil => simp only [proposals_nil, List.not_mem_nil]
  | cons row rows ih =>
    rw [proposals_cons, List.mem_append, ih, List.mem_cons]
    cases row <;> simp

end Tables

/-- A decision that is found has the id and is in the table. -/
theorem findDecision_some {rows : List Row} {decisionId : String} {d : DecisionRow}
    (h : findDecision rows decisionId = some d) :
    d.decisionId = decisionId ∧ d ∈ decisions rows := by
  unfold findDecision at h
  have hid := List.find?_some h
  exact ⟨of_decide_eq_true hid, List.mem_of_find?_eq_some h⟩

/-- An approval that is found is there, under its id. -/
theorem findApproval_some {rows : List Row} {approvalId : String} {a : ApprovalRow}
    (h : findApproval rows approvalId = some a) :
    a.approvalId = approvalId ∧ a ∈ approvals rows := by
  unfold findApproval at h
  have hid := List.find?_some h
  exact ⟨of_decide_eq_true hid, List.mem_of_find?_eq_some h⟩

/-- A proposal that is found is there, under its id. -/
theorem findProposal_some {rows : List Row} {proposalId : String} {p : RemediationProposalRow}
    (h : findProposal rows proposalId = some p) : p.proposalId = proposalId ∧ p ∈ proposals rows := by
  unfold findProposal at h
  have hid := List.find?_some h
  exact ⟨of_decide_eq_true hid, List.mem_of_find?_eq_some h⟩

/-! ## Updates of approvals -/

section Update

variable {guard : ApprovalRow → Bool} {set : ApprovalRow → ApprovalRow} {rows : List Row}

/-- An approval after an update. -/
def updatedApproval (guard : ApprovalRow → Bool) (set : ApprovalRow → ApprovalRow)
    (a : ApprovalRow) : ApprovalRow := if guard a then set a else a

/-- A row after an update. -/
def updatedRow (guard : ApprovalRow → Bool) (set : ApprovalRow → ApprovalRow) : Row → Row
  | .approval a => .approval (updatedApproval guard set a)
  | row => row

/-- An update of approvals, row by row. -/
theorem updateApprovals_apply_cons (row : Row) :
    (updateApprovals guard set).apply (row :: rows)
      = updatedRow guard set row :: (updateApprovals guard set).apply rows := by
  cases row with
  | approval a =>
    unfold updatedRow updatedApproval Change.apply
    rw [List.filterMap_cons]
    by_cases h : guard a = true
    · have hg : (updateApprovals guard set).guard (.approval a) = true := h
      simp only [hg, h, if_true]
      rfl
    · have hg : ¬ (updateApprovals guard set).guard (.approval a) = true := h
      simp only [hg, h]
      rfl
  | _ => rfl

/-- An update of approvals changes approvals only. -/
theorem updateApprovals_apply :
    (updateApprovals guard set).apply rows = rows.map (updatedRow guard set) := by
  induction rows with
  | nil => rfl
  | cons row rows ih => rw [updateApprovals_apply_cons, List.map_cons, ih]

@[simp] theorem decisions_update :
    decisions ((updateApprovals guard set).apply rows) = decisions rows := by
  induction rows with
  | nil => rfl
  | cons row rows ih =>
    rw [updateApprovals_apply_cons]
    cases row <;> simp [updatedRow, ih]

@[simp] theorem auditMetas_update :
    auditMetas ((updateApprovals guard set).apply rows) = auditMetas rows := by
  induction rows with
  | nil => rfl
  | cons row rows ih =>
    rw [updateApprovals_apply_cons]
    cases row <;> simp [updatedRow, ih]

@[simp] theorem capabilities_update :
    capabilities ((updateApprovals guard set).apply rows) = capabilities rows := by
  induction rows with
  | nil => rfl
  | cons row rows ih =>
    rw [updateApprovals_apply_cons]
    cases row <;> simp [updatedRow, ih]

@[simp] theorem proposals_update :
    proposals ((updateApprovals guard set).apply rows) = proposals rows := by
  induction rows with
  | nil => rfl
  | cons row rows ih =>
    rw [updateApprovals_apply_cons]
    cases row <;> simp [updatedRow, ih]

@[simp] theorem approvals_update :
    approvals ((updateApprovals guard set).apply rows)
      = (approvals rows).map (updatedApproval guard set) := by
  induction rows with
  | nil => rfl
  | cons row rows ih =>
    rw [updateApprovals_apply_cons]
    cases row <;> simp [updatedRow, ih]

/-- An updated approval keeps its id. -/
theorem updatedApproval_id (hid : ∀ a, (set a).approvalId = a.approvalId) (a : ApprovalRow) :
    (updatedApproval guard set a).approvalId = a.approvalId := by
  unfold updatedApproval
  split
  · exact hid a
  · rfl

/-- An update of approvals keeps the keys. -/
theorem keys_update (hid : ∀ a, (set a).approvalId = a.approvalId) :
    ((updateApprovals guard set).apply rows).map Row.key = rows.map Row.key := by
  induction rows with
  | nil => rfl
  | cons row rows ih =>
    rw [updateApprovals_apply_cons, List.map_cons, List.map_cons, ih]
    cases row with
    | approval a =>
      show RowKey.approval (updatedApproval guard set a).approvalId :: _ = _
      rw [updatedApproval_id hid]
      rfl
    | _ => rfl

/-- The approval with an id after an update. -/
theorem findApproval_update (hid : ∀ a, (set a).approvalId = a.approvalId) (approvalId : String) :
    findApproval ((updateApprovals guard set).apply rows) approvalId
      = (findApproval rows approvalId).map (updatedApproval guard set) := by
  unfold findApproval
  rw [approvals_update, List.find?_map]
  congr 1
  refine congrArg (fun p => List.find? p (approvals rows)) (funext (fun a => ?_))
  show decide ((updatedApproval guard set a).approvalId = approvalId) = _
  rw [updatedApproval_id hid]

end Update

section Changes

variable {rows : List Row} (approvalId now : String)

@[simp] theorem keys_consume :
    ((consumeChange approvalId now).apply rows).map Row.key = rows.map Row.key :=
  keys_update (fun _ => rfl)

@[simp] theorem decisions_consume :
    decisions ((consumeChange approvalId now).apply rows) = decisions rows := decisions_update

@[simp] theorem auditMetas_consume :
    auditMetas ((consumeChange approvalId now).apply rows) = auditMetas rows := auditMetas_update

@[simp] theorem capabilities_consume :
    capabilities ((consumeChange approvalId now).apply rows) = capabilities rows :=
  capabilities_update

@[simp] theorem keys_expire :
    ((expireChange approvalId now).apply rows).map Row.key = rows.map Row.key :=
  keys_update (fun _ => rfl)

@[simp] theorem decisions_expire :
    decisions ((expireChange approvalId now).apply rows) = decisions rows := decisions_update

@[simp] theorem auditMetas_expire :
    auditMetas ((expireChange approvalId now).apply rows) = auditMetas rows := auditMetas_update

@[simp] theorem capabilities_expire :
    capabilities ((expireChange approvalId now).apply rows) = capabilities rows :=
  capabilities_update

end Changes

/-! ## Updates of proposals -/

section UpdateProposal

variable {rows : List Row} (proposalId : String) (u : ProposalUpdate) (now : String)

/-- A proposal after an update of proposals. -/
def updatedProposal (p : RemediationProposalRow) : RemediationProposalRow :=
  if p.proposalId = proposalId then u.set now p else p

/-- A row after an update of proposals. -/
def updatedProposalRow : Row → Row
  | .proposal p => .proposal (updatedProposal proposalId u now p)
  | row => row

/-- An update of proposals changes proposals only. -/
theorem updateProposal_apply :
    (updateProposalChange proposalId u now).apply rows
      = rows.map (updatedProposalRow proposalId u now) := by
  unfold Change.apply
  rw [← List.filterMap_eq_map]
  refine List.filterMap_congr (fun row _ => ?_)
  cases row with
  | proposal p =>
    by_cases h : p.proposalId = proposalId
    · simp [updateProposalChange, updatedProposalRow, updatedProposal, h]
    · simp [updateProposalChange, updatedProposalRow, updatedProposal, h]
  | _ => rfl

/-- An update of proposals keeps the keys. -/
theorem keys_updateProposal :
    ((updateProposalChange proposalId u now).apply rows).map Row.key = rows.map Row.key := by
  rw [updateProposal_apply, List.map_map]
  refine List.map_congr_left (fun row _ => ?_)
  cases row with
  | proposal p =>
    show RowKey.proposal (updatedProposal proposalId u now p).proposalId = _
    unfold updatedProposal
    split <;> rfl
  | _ => rfl

/-- It keeps the decisions. -/
theorem decisions_updateProposal :
    decisions ((updateProposalChange proposalId u now).apply rows) = decisions rows := by
  rw [updateProposal_apply]
  unfold decisions
  rw [List.filterMap_map]
  exact List.filterMap_congr (fun row _ => by cases row <;> rfl)

/-- It keeps the approvals. -/
theorem approvals_updateProposal :
    approvals ((updateProposalChange proposalId u now).apply rows) = approvals rows := by
  rw [updateProposal_apply]
  unfold approvals
  rw [List.filterMap_map]
  exact List.filterMap_congr (fun row _ => by cases row <;> rfl)

/-- It keeps the audit rows. -/
theorem auditMetas_updateProposal :
    auditMetas ((updateProposalChange proposalId u now).apply rows) = auditMetas rows := by
  rw [updateProposal_apply]
  unfold auditMetas
  rw [List.filterMap_map]
  exact List.filterMap_congr (fun row _ => by cases row <;> rfl)

/-- The proposals after an update. -/
theorem proposals_updateProposal :
    proposals ((updateProposalChange proposalId u now).apply rows)
      = (proposals rows).map (updatedProposal proposalId u now) := by
  rw [updateProposal_apply]
  unfold proposals
  rw [List.filterMap_map, List.map_filterMap]
  exact List.filterMap_congr (fun row _ => by cases row <;> rfl)

end UpdateProposal

/-! ## Insertions -/

/-- A row can be inserted when its key is free and its decision is there. -/
theorem admits_iff {rows : List Row} {row : Row} :
    schema.admits rows row = true ↔
      row.key ∉ rows.map Row.key ∧ refersToDecision rows row = true := by
  unfold Schema.admits
  rw [Bool.and_eq_true, decide_eq_true_eq, List.mem_map]
  refine and_congr_left' ⟨fun h => ?_, fun h r hr hk => h ⟨r, hr, hk⟩⟩
  rintro ⟨r, hr, hk⟩
  exact h r hr hk

/-- A row with a decision refers to one that is there. -/
theorem refersToDecision_iff {rows : List Row} {row : Row} {decisionId : String}
    (h : row.decisionRef = some decisionId) :
    refersToDecision rows row = true ↔ ∃ d ∈ decisions rows, d.decisionId = decisionId := by
  unfold refersToDecision
  rw [h, Option.all_some, List.any_eq_true]
  simp only [decide_eq_true_eq]

/-- A row that refers to nothing can be inserted when its key is free. -/
theorem admits_of_no_ref {rows : List Row} {row : Row} (hkey : row.key ∉ rows.map Row.key)
    (href : row.decisionRef = none) : schema.admits rows row = true := by
  refine admits_iff.mpr ⟨hkey, ?_⟩
  unfold refersToDecision
  rw [href]
  rfl

end ControlPlane

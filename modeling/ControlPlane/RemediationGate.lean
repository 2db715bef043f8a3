/-
# The gate of remediation proposals

A proposal gets behind the gate (it is approved, and then goes through a pull request, its
application and its verification) because the policy allows it, or because a reviewer has
approved its approval; and it is verified only with a snapshot that says so.  The three tables
are only ever updated a part at a time.
-/
import ControlPlane.AuditTrail
import ControlPlane.RemediationStatements

namespace ControlPlane.Remediation

open Transaction Persistence AuditTrail

-- what the operations compute between their statements is not evaluated
attribute [local irreducible] strip headerText runBundle enrichGovernanceRequest
  PolicyProcess.catchUp

/-! ## The gate -/

/-- The statuses behind the gate. -/
def behindGate : List RemediationStatus :=
  [.approved, .prCreated, .applied, .verifying, .verified, .failed]

/-- The approval has been approved; it may have been consumed since. -/
def Passed (a : ApprovalRow) : Prop := a.status = .approved ∨ a.status = .consumed

instance (a : ApprovalRow) : Decidable (Passed a) := inferInstanceAs (Decidable (_ ∨ _))

/-- The approval is the one of the proposal, and a reviewer has approved it. -/
def Backs (a : ApprovalRow) (p : RemediationProposalRow) : Prop :=
  p.approvalId = some a.approvalId ∧ Passed a ∧ a.reviewer.isSome = true

/-- A proposal in order, beside the approvals there are and the ids of those that were approved
before. -/
structure Cleared (granted : String → Prop) (as : List ApprovalRow)
    (p : RemediationProposalRow) : Prop where
  gate : p.status ∈ behindGate → p.policyVerdict = some .allow ∨
    (∃ approvalId, p.approvalId = some approvalId ∧ granted approvalId) ∨ ∃ a ∈ as, Backs a p
  /-- what waits for a resolution has an approval to resolve -/
  waiting : p.status = .policyEvaluated → p.approvalId.getD "" ≠ ""
  verified : p.status = .verified → ∃ s, p.verificationSnapshot = some s ∧ s.outcome = .verified

/-- What holds of the rows between two operations. -/
structure Gated (granted : String → Prop) (rows : List Row) : Prop where
  keys : (rows.map Row.key).Nodup
  cleared : ∀ p ∈ proposals rows, Cleared granted (approvals rows) p
  reviewed : ∀ a ∈ approvals rows, Passed a → a.reviewer.isSome = true

section Rows

variable {granted : String → Prop} {rows rows' : List Row}

/-- A proposal stays in order as long as the approvals that have passed stay. -/
theorem Cleared.mono {as as' : List ApprovalRow} {p : RemediationProposalRow}
    (h : Cleared granted as p)
    (hkept : ∀ a ∈ as, Passed a → ∃ a' ∈ as', a'.approvalId = a.approvalId ∧ Passed a' ∧
      (a.reviewer.isSome = true → a'.reviewer.isSome = true)) : Cleared granted as' p where
  gate hp := by
    rcases h.gate hp with hallow | hbefore | ⟨a, ha, hid, hpassed, hreviewer⟩
    · exact Or.inl hallow
    · exact Or.inr (Or.inl hbefore)
    · obtain ⟨a', ha', hid', hpassed', hreviewer'⟩ := hkept a ha hpassed
      exact Or.inr (Or.inr ⟨a', ha', by rw [hid, hid'], hpassed', hreviewer' hreviewer⟩)
  waiting := h.waiting
  verified := h.verified

/-- The approvals may be forgotten once they are among the granted ones. -/
theorem Cleared.forget {as : List ApprovalRow} {p : RemediationProposalRow}
    (h : Cleared granted as p) (hhistory : ∀ a ∈ as, Passed a → granted a.approvalId) :
    Cleared granted [] p where
  gate hp := by
    rcases h.gate hp with hallow | hbefore | ⟨a, ha, hid, hpassed, -⟩
    · exact Or.inl hallow
    · exact Or.inr (Or.inl hbefore)
    · exact Or.inr (Or.inl ⟨a.approvalId, hid, hhistory a ha hpassed⟩)
  waiting := h.waiting
  verified := h.verified

/-- A proposal that is not evaluated yet is in order. -/
theorem cleared_proposed {as : List ApprovalRow} {p : RemediationProposalRow}
    (hs : p.status = .proposed) : Cleared granted as p where
  gate hp := by
    rw [hs] at hp
    exact absurd hp (by decide)
  waiting hp := by
    rw [hs] at hp
    cases hp
  verified hp := by
    rw [hs] at hp
    cases hp

/-- **Approvals are updated.**  What has passed stays passed, and what passes has a reviewer. -/
theorem Gated.update {guard : ApprovalRow → Bool} {set : ApprovalRow → ApprovalRow}
    (h : Gated granted rows) (hid : ∀ a, (set a).approvalId = a.approvalId)
    (hpassed : ∀ a, guard a = true → Passed a → Passed (set a))
    (hreviewer : ∀ a, guard a = true → a.reviewer.isSome = true → (set a).reviewer.isSome = true)
    (hreviewed : ∀ a, guard a = true → Passed (set a) → Passed a ∨ (set a).reviewer.isSome = true) :
    Gated granted ((updateApprovals guard set).apply rows) where
  keys := by
    rw [keys_update hid]
    exact h.keys
  cleared p hp := by
    rw [proposals_update] at hp
    rw [approvals_update]
    refine (h.cleared p hp).mono (fun a ha hpass => ?_)
    refine ⟨_, List.mem_map_of_mem ha, updatedApproval_id hid a, ?_, ?_⟩
    · unfold updatedApproval
      split
      · exact hpassed a (by assumption) hpass
      · exact hpass
    · intro hr
      unfold updatedApproval
      split
      · exact hreviewer a (by assumption) hr
      · exact hr
  reviewed a' ha' hpass := by
    rw [approvals_update, List.mem_map] at ha'
    obtain ⟨a, ha, rfl⟩ := ha'
    unfold updatedApproval at hpass ⊢
    split at hpass
    · rename_i hguard
      rw [if_pos hguard]
      rcases hreviewed a hguard hpass with hbefore | hnow
      · exact hreviewer a hguard (h.reviewed a ha hbefore)
      · exact hnow
    · rename_i hguard
      rw [if_neg hguard]
      exact h.reviewed a ha hpass

theorem Gated.expire (h : Gated granted rows) (approvalId now : String) :
    Gated granted ((expireChange approvalId now).apply rows) := by
  refine h.update (fun _ => rfl) (fun a ha hpass => ?_) (fun _ _ hr => hr) (fun a _ hpass => ?_)
  · have hpending := (of_decide_eq_true ha).2
    rcases hpass with hs | hs <;> rw [hpending] at hs <;> cases hs
  · rcases hpass with hs | hs <;> cases hs

theorem Gated.expireStale (h : Gated granted rows) (now : String) :
    Gated granted ((expireStaleChange now).apply rows) := by
  refine h.update (fun _ => rfl) (fun a ha hpass => ?_) (fun _ _ hr => hr) (fun a _ hpass => ?_)
  · have hpending := (of_decide_eq_true ha).1
    rcases hpass with hs | hs <;> rw [hpending] at hs <;> cases hs
  · rcases hpass with hs | hs <;> cases hs

theorem Gated.resolve (h : Gated granted rows) (approvalId : String) (status : ApprovalStatus)
    (reviewer comment now : String) :
    Gated granted ((resolveChange approvalId status reviewer comment now).apply rows) := by
  refine h.update (fun _ => rfl) (fun a ha hpass => ?_) (fun _ _ _ => rfl) (fun _ _ _ => Or.inr rfl)
  have hpending := (of_decide_eq_true ha).2
  rcases hpass with hs | hs <;> rw [hpending] at hs <;> cases hs

theorem Gated.consume (h : Gated granted rows) (approvalId now : String) :
    Gated granted ((consumeChange approvalId now).apply rows) := by
  refine h.update (fun _ => rfl) (fun _ _ _ => Or.inr rfl) (fun _ _ hr => hr) (fun a ha _ => ?_)
  exact Or.inl (Or.inl (of_decide_eq_true ha).2.1)

/-- **New rows.**  A new approval is pending, and a new proposal is not evaluated yet. -/
theorem Gated.insert {row : Row} (h : Gated granted rows) (hadmits : schema.admits rows row = true)
    (happroval : ∀ a ∈ approvals [row], ¬ Passed a)
    (hproposal : ∀ p ∈ proposals [row], p.status = .proposed) :
    Gated granted (rows ++ [row]) where
  keys := preserves_keys row rows h.keys hadmits
  cleared p hp := by
    rw [proposals_append, List.mem_append] at hp
    rw [approvals_append]
    rcases hp with hp | hp
    · exact (h.cleared p hp).mono
        (fun a ha hpass => ⟨a, List.mem_append_left _ ha, rfl, hpass, id⟩)
    · exact cleared_proposed (hproposal p hp)
  reviewed a ha hpass := by
    rw [approvals_append, List.mem_append] at ha
    rcases ha with ha | ha
    · exact h.reviewed a ha hpass
    · exact absurd hpass (happroval a ha)

/-- Two proposals with one id are the same. -/
theorem Gated.eq_of_proposal (h : Gated granted rows) {p q : RemediationProposalRow}
    (hp : p ∈ proposals rows) (hq : q ∈ proposals rows) (hid : p.proposalId = q.proposalId) :
    p = q := by
  have hsame : Row.proposal p = Row.proposal q :=
    List.inj_on_of_nodup_map h.keys ((mem_proposals rows).mp hp) ((mem_proposals rows).mp hq)
      (congrArg RowKey.proposal hid)
  cases hsame
  rfl

/-- **A proposal is updated**, and is in order afterwards. -/
theorem Gated.move (h : Gated granted rows) {proposalId : String} {u : ProposalUpdate}
    {now : String}
    (hmove : ∀ p ∈ proposals rows, p.proposalId = proposalId →
      Cleared granted (approvals rows) (u.set now p)) :
    Gated granted ((updateProposalChange proposalId u now).apply rows) where
  keys := by
    rw [keys_updateProposal]
    exact h.keys
  cleared p hp := by
    rw [proposals_updateProposal, List.mem_map] at hp
    rw [approvals_updateProposal]
    obtain ⟨q, hq, rfl⟩ := hp
    unfold updatedProposal
    split
    · exact hmove q hq (by assumption)
    · exact h.cleared q hq
  reviewed := by
    rw [approvals_updateProposal]
    exact h.reviewed

/-- Rows are deleted, but no proposal needs one of them. -/
theorem Gated.delete {c : Change Row} (h : Gated granted rows) (hdelete : ∀ r, c.set r = none)
    (hcleared : ∀ p ∈ proposals rows, Cleared granted [] p) : Gated granted (c.apply rows) := by
  have hsub := Change.apply_sublist hdelete rows
  refine ⟨h.keys.sublist (hsub.map _), fun p hp => ?_, fun a ha hpass => ?_⟩
  · have hp' := (mem_proposals rows).mpr (hsub.subset ((mem_proposals _).mp hp))
    exact (hcleared p hp').mono (fun a ha => absurd ha List.not_mem_nil)
  · exact h.reviewed a ((mem_approvals rows).mpr (hsub.subset ((mem_approvals _).mp ha))) hpass

theorem Gated.weaken {granted' : String → Prop} (h : Gated granted rows)
    (hgranted : ∀ approvalId, granted approvalId → granted' approvalId) : Gated granted' rows where
  keys := h.keys
  cleared p hp := by
    refine ⟨fun hs => ?_, (h.cleared p hp).waiting, (h.cleared p hp).verified⟩
    refine ((h.cleared p hp).gate hs).imp_right (Or.imp_left ?_)
    exact fun ⟨approvalId, hid, hbefore⟩ => ⟨approvalId, hid, hgranted approvalId hbefore⟩
  reviewed := h.reviewed

theorem gated_of_empty (hkeys : (rows.map Row.key).Nodup) (happrovals : approvals rows = [])
    (hproposals : proposals rows = []) : Gated granted rows where
  keys := hkeys
  cleared := by
    rw [hproposals]
    exact fun p hp => absurd hp List.not_mem_nil
  reviewed := by
    rw [happrovals]
    exact fun a ha => absurd ha List.not_mem_nil

end Rows

/-! ## The operations -/

section Operations

variable {granted : String → Prop} {server : Server} {py : PyRuntime} {proposalId : String}
  {tenantId : Option String}  {rows : List Row} {clock : ℕ → Instant}

/-- The update of a proposal, all or nothing. -/
theorem settles_update {P Q E : List Row → Prop} {u : ProposalUpdate} {now : Instant}
    (hP : ∀ rows, P rows → E rows) (hQ : ∀ rows, Q rows → E rows)
    (hupdate : ∀ rows, P rows →
      Q ((updateProposalChange proposalId u (Timestamp.isoformat now)).apply rows)) :
    (updateRemediationProposal proposalId u now).Settles schema P (fun _ => Q) E := by
  refine (settles_onConnection (P := P) (Q := fun _ => Q) ?_).mono (fun _ h => h)
    (fun _ _ h => h) ?_
  · have hexecute : (execute (updateProposalChange proposalId u (Timestamp.isoformat now))).Meets
        schema (Prog.Clean P) (fun _ c r => P c ∧ Q r) (fun c _ => P c) := by
      refine (meets_execute _ (fun _ _ h => h.2)).mono (fun _ _ h => h) ?_ (fun _ _ h => h)
      rintro count c r ⟨r', ⟨rfl, hc⟩, -, rfl⟩
      exact ⟨hc, hupdate r' hc⟩
    refine Prog.meets_bind hexecute (fun count => ?_)
    split
    · exact Prog.meets_done (fun _ _ _ ha => by cases ha) (fun _ _ _ _ h => h.1)
    · refine Prog.meets_bind (meets_fetchAll (fun _ _ h => h.1)) (fun read => ?_)
      split
      · exact Prog.meets_done (fun _ _ _ _ h => h.2) (fun _ _ _ he => by cases he)
      · exact Prog.meets_done (fun _ _ _ ha => by cases ha) (fun _ _ _ _ h => h.2.1)
  · rintro rows (h | ⟨_, h⟩)
    · exact hP rows h
    · exact hQ rows h

/-- The proposal that an operation has read is there, with a status that allows the move. -/
def Holds (granted : String → Prop) (record : RemediationProposalRow) (proposalId : String)
    (rows : List Row) : Prop :=
  Gated granted rows ∧ record ∈ proposals rows ∧ record.proposalId = proposalId

theorem settles_loaded : (load proposalId tenantId).Settles schema (Gated granted)
    (fun record => Holds granted record proposalId) (Gated granted) := by
  refine settles_load.mono (fun _ h => h) ?_ (fun _ h => h)
  rintro record rows ⟨hgated, hfind, -⟩
  obtain ⟨hid, hmem⟩ := findProposal_some hfind
  exact ⟨hgated, hmem, hid⟩

theorem settles_require {record : RemediationProposalRow} {target : RemediationStatus} :
    (Prog.done (requireTransition record.status target) : StoreM Unit).Settles schema
      (Holds granted record proposalId)
      (fun _ rows => target ∈ allowed record.status ∧ Holds granted record proposalId rows)
      (Gated granted) := by
  refine Prog.settles_done (fun _ rows hok h => ⟨?_, h⟩) (fun _ _ _ h => h.1)
  unfold requireTransition at hok
  split at hok
  · assumption
  · cases hok

/-- A proposal behind the gate stays there, whatever else is written. -/
theorem Cleared.advance {as : List ApprovalRow} {p : RemediationProposalRow} {u : ProposalUpdate}
    {now : String} {s : RemediationStatus} (h : Cleared granted as p) (hp : p.status ∈ behindGate)
    (hs : u.status = some s) (hwaiting : s ≠ .policyEvaluated) (happroval : u.approvalId = none)
    (hverdict : u.policyVerdict = none)
    (hverified : s = .verified → ∃ snapshot, u.verificationSnapshot = some snapshot ∧
      snapshot.outcome = .verified) : Cleared granted as (u.set now p) where
  gate _ := by
    have happrovalId : (u.set now p).approvalId = p.approvalId := by
      show (u.approvalId <|> p.approvalId) = p.approvalId
      rw [happroval]
      rfl
    have hpolicyVerdict : (u.set now p).policyVerdict = p.policyVerdict := by
      show (u.policyVerdict <|> p.policyVerdict) = p.policyVerdict
      rw [hverdict]
      rfl
    unfold Backs
    rw [hpolicyVerdict, happrovalId]
    exact h.gate hp
  waiting hw := by
    have hsame : u.status.getD p.status = .policyEvaluated := hw
    rw [hs] at hsame
    exact absurd hsame hwaiting
  verified hv := by
    have hsame : u.status.getD p.status = .verified := hv
    rw [hs] at hsame
    obtain ⟨snapshot, hsnapshot, houtcome⟩ := hverified hsame
    refine ⟨snapshot, ?_, houtcome⟩
    show (u.verificationSnapshot <|> p.verificationSnapshot) = some snapshot
    rw [hsnapshot]
    rfl

/-- The proposal is behind the gate. -/
def Behind (granted : String → Prop) (proposalId : String) (rows : List Row) : Prop :=
  Gated granted rows ∧ ∀ p ∈ proposals rows, p.proposalId = proposalId → p.status ∈ behindGate

theorem Holds.behind {record : RemediationProposalRow} (h : Holds granted record proposalId rows)
    (hs : record.status ∈ behindGate) : Behind granted proposalId rows := by
  obtain ⟨hgated, hmem, hid⟩ := h
  refine ⟨hgated, fun p hp hpid => ?_⟩
  rw [hgated.eq_of_proposal hp hmem (hpid.trans hid.symm)]
  exact hs

/-- **A move behind the gate.** -/
theorem settles_advance {u : ProposalUpdate} {now : Instant} {s : RemediationStatus}
    (hs : u.status = some s) (hbehind : s ∈ behindGate) (happroval : u.approvalId = none)
    (hverdict : u.policyVerdict = none)
    (hverified : s = .verified → ∃ snapshot, u.verificationSnapshot = some snapshot ∧
      snapshot.outcome = .verified) :
    (updateRemediationProposal proposalId u now).Settles schema (Behind granted proposalId)
      (fun _ => Behind granted proposalId) (Gated granted) := by
  refine settles_update (fun _ h => h.1) (fun _ h => h.1) (fun rows h => ⟨?_, ?_⟩)
  · refine h.1.move (fun p hp hid => ?_)
    refine (h.1.cleared p hp).advance (h.2 p hp hid) hs ?_ happroval hverdict hverified
    intro hwaiting
    rw [hwaiting] at hbehind
    exact absurd hbehind (by decide)
  · intro p hp hid
    rw [proposals_updateProposal, List.mem_map] at hp
    obtain ⟨q, hq, rfl⟩ := hp
    unfold updatedProposal at hid ⊢
    split
    · show u.status.getD q.status ∈ behindGate
      rw [hs]
      exact hbehind
    · rename_i hother
      rw [if_neg hother] at hid
      exact absurd hid hother

/-- **Evaluating a proposal**: an allow opens the gate, an approval is asked for, or the proposal
is rejected. -/
theorem gated_evaluatePolicy (process : PolicyProcess) (environment : String)
    (team : Option String) {draws : Draws} (hdraw : draws.approvalId ≠ "") :
    (evaluatePolicy server process proposalId tenantId environment team draws clock).Settles schema
      (Gated granted) (fun _ => Gated granted) (Gated granted) := by
  have hkeeps : ∀ (result : GovernanceEvaluateResponse) (request : GovernanceEvaluateRequest)
      (draws : Draws) (ttlSeconds : ℤ) (clock : ℕ → Instant),
      (persistEvaluation server.py server.sha256 result request draws ttlSeconds clock).Keeps
        schema (Gated granted) (fun _ => True) := by
    intro result request draws ttlSeconds clock
    refine Prog.Issues.keeps (issues_persistEvaluation (fun digests rows h hadmits => ?_)
      (fun rows h hadmits => ?_) (fun m _ rows h hadmits => ?_))
    · exact h.insert hadmits (fun a ha => absurd ha List.not_mem_nil)
        (fun p hp => absurd hp List.not_mem_nil)
    · refine h.insert hadmits (fun a ha hpass => ?_) (fun p hp => absurd hp List.not_mem_nil)
      rw [List.mem_singleton.mp (show a ∈ [_] from ha)] at hpass
      rcases hpass with hs | hs <;> cases hs
    · exact h.insert hadmits (fun a ha => absurd ha List.not_mem_nil)
        (fun p hp => absurd hp List.not_mem_nil)
  unfold evaluatePolicy
  refine Prog.settles_bind settles_loaded (fun record => ?_)
  refine Prog.settles_bind (settles_require.mono (fun _ h => h) (fun _ _ h => h.2.1)
    (fun _ h => h)) (fun _ => ?_)
  refine Prog.settles_bind (R := fun result rows => result.approvalId = none ∧ Gated granted rows)
    ((settles_evaluateSynced process none _).mono (fun _ h => h) (fun _ _ h => ⟨h.2, h.1⟩)
      (fun _ h => h)) (fun result => ?_)
  refine Prog.settles_bind (R := fun recorded rows => (result.approvalId = none ∧
    recorded.approvalId = citedApproval result { draws with
      requestId := s!"remediation-{proposalId}-{draws.requestId}" } ∧
    recorded.finalVerdict = result.finalVerdict) ∧ Gated granted rows)
    (Prog.settles_of_rows (fun rows hrows => ?_)) (fun recorded => ?_)
  · refine ((settles_persistEvaluation server.py server.sha256 result _ _ _ clock
      rows).and_keeps (hkeeps _ _ _ _ _)).mono ?_ ?_ (fun _ h => h.2)
    · rintro _ rfl
      exact ⟨rfl, hrows.2⟩
    · rintro recorded rows' ⟨⟨⟨-, hcited, hverdict⟩, -⟩, hgated⟩
      exact ⟨⟨hrows.1, hcited, hverdict⟩, hgated⟩
  · refine Prog.settles_of_fact (fun hrecorded => ?_)
    obtain ⟨hnone, hcited, hverdict⟩ := hrecorded
    refine settles_update (fun _ h => h) (fun _ h => h) (fun rows h => h.move (fun p hp _ => ?_))
    have hstatus : ∀ u : ProposalUpdate, u.status = some (statusOf recorded.finalVerdict) →
        ∀ now, (u.set now p).status = statusOf recorded.finalVerdict := by
      intro u hu now
      show u.status.getD p.status = _
      rw [hu]
      rfl
    refine ⟨fun hgate => ?_, fun hwaiting => ?_, fun hverified => ?_⟩
    · rw [hstatus _ rfl] at hgate
      left
      show (some recorded.finalVerdict <|> p.policyVerdict) = some .allow
      cases hv : recorded.finalVerdict with
      | allow => rfl
      | approvalRequired =>
        rw [hv] at hgate
        exact absurd hgate (by decide)
      | block =>
        rw [hv] at hgate
        exact absurd hgate (by decide)
    · rw [hstatus _ rfl] at hwaiting
      show (recorded.approvalId <|> p.approvalId).getD "" ≠ ""
      have hasks : AsksApproval result := by
        refine ⟨?_, by rw [hnone]; rfl⟩
        rw [← hverdict]
        cases hv : recorded.finalVerdict with
        | approvalRequired => rfl
        | allow =>
          rw [hv] at hwaiting
          cases hwaiting
        | block =>
          rw [hv] at hwaiting
          cases hwaiting
      rw [hcited]
      unfold citedApproval
      rw [if_pos hasks]
      exact hdraw
    · rw [hstatus _ rfl] at hverified
      cases hv : recorded.finalVerdict with
      | allow =>
        rw [hv] at hverified
        cases hverified
      | approvalRequired =>
        rw [hv] at hverified
        cases hverified
      | block =>
        rw [hv] at hverified
        cases hverified

/-! ### The resolution of a proposal -/

variable {approvalId reviewer comment eventId : String} {status : ApprovalStatus}

/-- An approval with the id has passed, in the hands of a reviewer. -/
def PassedIn (approvalId : String) (rows : List Row) : Prop :=
  ∃ a ∈ approvals rows, a.approvalId = approvalId ∧ Passed a ∧ a.reviewer.isSome = true

/-- **A resolution** goes through or not; when it returns, the approval has the status. -/
theorem settles_resolveApproval (record : RemediationProposalRow)
    (hstatus : status = .approved ∨ status = .rejected) :
    (resolveApproval py approvalId status reviewer comment none true clock).Settles schema
      (Holds granted record proposalId)
      (fun _ rows => Holds granted record proposalId rows ∧
        (status = .approved → PassedIn approvalId rows)) (Gated granted) := by
  refine Prog.settles_of_rows (fun rows hrows => ?_)
  obtain ⟨hgated, hmem, hid⟩ := hrows
  by_cases hr : ∃ a d, Resolvable py rows approvalId reviewer none true clock a d
  · obtain ⟨a, d, hr⟩ := hr
    have hresolved : Gated granted (resolvedRows rows approvalId reviewer clock status comment) :=
      hgated.resolve _ _ _ _ _
    have hexecutes : (resolveApproval py approvalId status reviewer comment none true
        clock).Executes schema rows 7 (fun i => if i ≤ 3 then rows
          else resolvedRows rows approvalId reviewer clock status comment) _ :=
      executes_resolveApproval hgated.keys hstatus hr
    refine hexecutes.settles.mono (fun _ h => h) ?_ ?_
    · rintro _ rows' ⟨-, hrows'⟩
      rw [if_neg (by omega)] at hrows'
      rw [hrows']
      have hproposals : proposals (resolvedRows rows approvalId reviewer clock status comment)
          = proposals rows := proposals_update
      refine ⟨⟨hresolved, by rw [hproposals]; exact hmem, hid⟩, fun happroved => ?_⟩
      have hfind : findApproval (resolvedRows rows approvalId reviewer clock status comment)
          approvalId = some (resolvedApproval reviewer clock status comment a) :=
        findApproval_resolved hr.approval hr.pending
      obtain ⟨hsame, hin⟩ := findApproval_some hfind
      exact ⟨_, hin, hsame, Or.inl happroved, rfl⟩
    · rintro rows' ⟨i, -, hrows'⟩
      rw [hrows']
      split
      · exact hgated
      · exact hresolved
  · refine (settles_resolveApproval_refused (fun a d h => hr ⟨a, d, h⟩)).mono (fun _ h => h)
      (fun _ _ h => h.elim) ?_
    rintro rows' (rfl | rfl)
    · exact hgated
    · unfold lapsed
      split
      · exact hgated.expire _ _
      · exact hgated

/-- What a resolution leaves behind it. -/
def Resolved (granted : String → Prop) (record : RemediationProposalRow) (proposalId : String)
    (approved : Bool) (rows : List Row) : Prop :=
  Holds granted record proposalId rows ∧
    (approved = true → PassedIn (record.approvalId.getD "") rows)

theorem settles_resolveLinked {record : RemediationProposalRow} (approved : Bool)
    (hlink : record.approvalId.getD "" ≠ "") :
    (resolveLinked py record approved reviewer comment eventId clock).Settles schema
      (Holds granted record proposalId) (fun _ => Resolved granted record proposalId approved)
      (Gated granted) := by
  have haudit : ∀ (decisionId : String) (payload : List (String × Json.Value)) (now : Instant),
      (appendAuditMeta decisionId "remediation_resolved" reviewer payload eventId now
        false).Settles schema (Resolved granted record proposalId approved)
        (fun _ => Resolved granted record proposalId approved) (Gated granted) := by
    intro decisionId payload now
    have hinsert : ∀ m : AuditMetaRow, (insert (.auditMeta m)).Meets schema
        (Prog.Clean (Resolved granted record proposalId approved))
        (fun _ c r => Resolved granted record proposalId approved c ∧
          Resolved granted record proposalId approved r)
        (fun c _ => Resolved granted record proposalId approved c) := by
      intro m
      refine (meets_insert _ (fun _ _ h => h.2)).mono (fun _ _ h => h) ?_ (fun _ _ h => h)
      rintro _ c r ⟨r', ⟨rfl, hc⟩, hadmits, rfl⟩
      refine ⟨hc, ⟨?_, ?_, hc.1.2.2⟩, fun happroved => ?_⟩
      · exact hc.1.1.insert hadmits (fun a ha => absurd ha List.not_mem_nil)
          (fun p hp => absurd hp List.not_mem_nil)
      · rw [proposals_append]
        exact List.mem_append_left _ hc.1.2.1
      · obtain ⟨a, ha, hrest⟩ := hc.2 happroved
        refine ⟨a, ?_, hrest⟩
        rw [approvals_append]
        exact List.mem_append_left _ ha
    refine Prog.settles_bind ((settles_onConnection (hinsert _)).mono (fun _ h => h)
      (fun _ _ h => h) ?_) (fun _ => Prog.settles_ok (fun _ h => h))
    rintro rows (h | ⟨-, h⟩) <;> exact h.1.1
  unfold resolveLinked
  dsimp only
  rw [if_neg hlink]
  refine Prog.settles_bind (R := fun _ => Resolved granted record proposalId approved)
    ((settles_resolveApproval record ?_).mono (fun _ h => h) ?_ (fun _ h => h)) (fun _ => ?_)
  · cases approved
    · exact Or.inr rfl
    · exact Or.inl rfl
  · rintro _ rows ⟨hholds, hpassed⟩
    refine ⟨hholds, fun happroved => hpassed ?_⟩
    rw [happroved]
    rfl
  · split
    · exact Prog.settles_ok (fun _ h => h)
    · exact Prog.settles_bind (haudit _ _ _) (fun _ => Prog.settles_ok (fun _ h => h))

/-- **Resolving a proposal**: the gate opens behind the approval. -/
theorem gated_resolveProposal (approved : Bool) :
    (resolveProposal py proposalId approved reviewer comment tenantId eventId clock).Settles schema
      (Gated granted) (fun _ => Gated granted) (Gated granted) := by
  unfold resolveProposal
  refine Prog.settles_bind settles_loaded (fun record => ?_)
  refine Prog.settles_bind settles_require (fun _ => ?_)
  refine Prog.settles_of_rows (fun rows hrows => ?_)
  obtain ⟨hallowed, hholds⟩ := hrows
  have hstatus : record.status = .policyEvaluated := by
    cases hs : record.status <;> rw [hs] at hallowed <;> revert hallowed <;> cases approved <;>
      decide
  have hlink : record.approvalId.getD "" ≠ "" :=
    (hholds.1.cleared record hholds.2.1).waiting hstatus
  refine Prog.settles_bind (R := fun _ => Resolved granted record proposalId approved)
    ((settles_resolveLinked approved hlink).mono ?_ (fun _ _ h => h) (fun _ h => h)) (fun _ => ?_)
  · rintro _ rfl
    exact hholds
  refine settles_update (fun _ h => h.1.1) (fun _ h => h) (fun rows h => ?_)
  obtain ⟨⟨hgated, hmem, hid⟩, hpassed⟩ := h
  refine hgated.move (fun p hp hpid => ?_)
  obtain rfl := hgated.eq_of_proposal hp hmem (hpid.trans hid.symm)
  refine ⟨fun hgate => ?_, fun hwaiting => ?_, fun hverified => ?_⟩
  · change target approved ∈ behindGate at hgate
    cases happroved : approved with
    | false =>
      rw [happroved] at hgate
      exact absurd hgate (by decide)
    | true =>
      obtain ⟨a, ha, haid, hpass, hreviewer⟩ := hpassed happroved
      refine Or.inr (Or.inr ⟨a, ha, ?_, hpass, hreviewer⟩)
      show p.approvalId = some a.approvalId
      rw [haid]
      cases hopt : p.approvalId with
      | none =>
        rw [hopt] at hlink
        exact absurd rfl hlink
      | some id => rfl
  · change target approved = .policyEvaluated at hwaiting
    cases happroved : approved <;> rw [happroved] at hwaiting <;> cases hwaiting
  · change target approved = .verified at hverified
    cases happroved : approved <;> rw [happroved] at hverified <;> cases hverified

/-! ### Behind the gate -/

/-- What may be moved on is behind the gate. -/
theorem Holds.behind_of_allowed {record : RemediationProposalRow} {target : RemediationStatus}
    (h : Holds granted record proposalId rows) (hallowed : target ∈ allowed record.status)
    (htarget : target ∈ [.prCreated, .applied, .verifying, .verified]) :
    Behind granted proposalId rows := by
  refine h.behind ?_
  cases hs : record.status <;> rw [hs] at hallowed <;> revert htarget hallowed <;>
    cases target <;> decide

theorem gated_preparePrDraft
    (gitops : GitOpsPullRequestRequest → Except String (Option String)) (prUrl : Option String)
    (now : Instant) :
    (preparePrDraft gitops proposalId tenantId prUrl now).Settles schema (Gated granted)
      (fun _ => Gated granted) (Gated granted) := by
  unfold preparePrDraft
  refine Prog.settles_bind settles_loaded (fun record => ?_)
  refine Prog.settles_bind (settles_require.mono (fun _ h => h)
    (fun _ rows h => h.2.behind_of_allowed h.1 (by decide)) (fun _ h => h)) (fun _ => ?_)
  refine Prog.settles_bind (R := fun _ => Behind granted proposalId) ?_ (fun url => ?_)
  · unfold draftUrl
    dsimp only
    split
    · exact Prog.settles_ok (fun _ h => h)
    · refine Prog.settles_bind (settles_pythonStep (fun _ h => h.1)) (fun _ => ?_)
      split
      · exact Prog.settles_ok (fun _ h => h)
      · exact Prog.settles_error (fun _ h => h.1)
  · exact (settles_advance rfl (by decide) rfl rfl (fun h => by cases h)).mono (fun _ h => h)
      (fun _ _ h => h.1) (fun _ h => h)

theorem gated_markApplied (prUrl : Option String) :
    (markApplied proposalId tenantId prUrl clock).Settles schema (Gated granted)
      (fun _ => Gated granted) (Gated granted) := by
  unfold markApplied
  refine Prog.settles_bind settles_loaded (fun record => ?_)
  refine Prog.settles_bind (settles_require.mono (fun _ h => h)
    (fun _ rows h => h.2.behind_of_allowed h.1 (by decide)) (fun _ h => h)) (fun _ => ?_)
  exact (settles_advance rfl (by decide) rfl rfl (fun h => by cases h)).mono (fun _ h => h)
    (fun _ _ h => h.1) (fun _ h => h)

/-- **Verifying a proposal**: it is verified with the snapshot that says so. -/
theorem gated_verifyRuntime (inventory : DriftStatus) (probeFresh : Bool) :
    (verifyRuntime proposalId tenantId inventory probeFresh clock).Settles schema (Gated granted)
      (fun _ => Gated granted) (Gated granted) := by
  unfold verifyRuntime
  refine Prog.settles_bind (R := fun record rows => record.proposalId = proposalId ∧
    Holds granted record proposalId rows) (settles_loaded.mono (fun _ h => h)
    (fun _ _ h => ⟨h.2.2, h⟩) (fun _ h => h)) (fun record => ?_)
  refine Prog.settles_of_fact (fun hid => ?_)
  refine Prog.settles_bind (R := fun _ => Behind granted proposalId) ?_ (fun _ => ?_)
  · unfold beginVerifying
    rw [hid]
    split
    · refine Prog.settles_bind (settles_require.mono (fun _ h => h)
        (fun _ rows h => h.2.behind_of_allowed h.1 (by decide)) (fun _ h => h)) (fun _ => ?_)
      refine Prog.settles_bind (R := fun _ => Behind granted proposalId) ?_
        (fun _ => Prog.settles_ok (fun _ h => h))
      exact settles_advance rfl (by decide) rfl rfl (fun h => by cases h)
    · split
      · exact settles_require.mono (fun _ h => h)
          (fun _ rows h => h.2.behind_of_allowed h.1 (by decide)) (fun _ h => h)
      · rename_i hs
        refine Prog.settles_ok (fun _ h => h.behind ?_)
        rw [not_not.mp hs]
        decide
  refine Prog.settles_bind (settles_pythonStep (fun _ h => h.1)) (fun _ => ?_)
  cases houtcome : (buildVerificationSnapshot proposalId inventory record.driftSnapshot probeFresh
      (Timestamp.isoformat (clock 1))).outcome with
  | verified =>
    dsimp only [verdictOf]
    rw [houtcome]
    exact (settles_advance rfl (by decide) rfl rfl (fun _ => ⟨_, rfl, houtcome⟩)).mono
      (fun _ h => h) (fun _ _ h => h.1) (fun _ h => h)
  | failed =>
    dsimp only [verdictOf]
    rw [houtcome]
    exact (settles_advance rfl (by decide) rfl rfl (fun h => by cases h)).mono (fun _ h => h)
      (fun _ _ h => h.1) (fun _ h => h)

end Operations

end ControlPlane.Remediation

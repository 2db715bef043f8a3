/-
# Who may approve what they have asked for

The requester of a decision and the reviewer of its approval are read off a token by two chains of
claims, and compared as names.  A caller can approve what was asked for under the same claims
exactly if the two names differ.
-/
import ControlPlane.ApprovalOrigin
import ControlPlane.RemediationProgress

namespace ControlPlane.SelfApproval

open Transaction Remediation AuditTrail ApprovalOrigin
open Function (uncurry)

-- what the endpoints compute between their statements is not evaluated
attribute [local irreducible] headerText runBundle enrichGovernanceRequest PolicyProcess.catchUp
  Server.grantedResponse

/-! ## The two names of a token -/

section Names

variable (py : PyRuntime) (auth : AuthEnv) (claims : Claims)

/-- The name that a decision is recorded under. -/
def requesterName (headers : Headers) (body : GovernanceEvaluateRequest) : String :=
  strip (resolveSubject py claims headers body)

/-- The token reviews. -/
def CanReview : Prop :=
  "approver" ∈ rolesFromClaims py auth claims ∧ reviewerName py claims ≠ ""

/-- The reviewer is the requester, as the store compares them. -/
def SameName (reviewer requester : String) : Prop :=
  requester ≠ "" ∧ py.lower reviewer = py.lower requester

/-- The token may approve what was asked for under its claims. -/
def MayApproveOwn (headers : Headers) (body : GovernanceEvaluateRequest) : Prop :=
  CanReview py auth claims ∧
    ¬ SameName py (reviewerName py claims) (requesterName py claims headers body)

/-- The token reviews nothing, or under the name that it asks with. -/
def Barred : Prop :=
  ¬ CanReview py auth claims ∨
    subjectName py claims ≠ "" ∧ py.lower (reviewerName py claims) = py.lower (subjectName py claims)

variable {py auth claims}

theorem resolveSubject_of_ne (h : subjectName py claims ≠ "") (headers : Headers)
    (body : GovernanceEvaluateRequest) :
    resolveSubject py claims headers body = subjectName py claims := by
  unfold resolveSubject
  rw [Tenancy.firstNonempty_cons, if_neg h]

/-- The claims come first. -/
theorem requesterName_of_ne (h : subjectName py claims ≠ "") (headers : Headers)
    (body : GovernanceEvaluateRequest) :
    requesterName py claims headers body = subjectName py claims := by
  unfold requesterName
  rw [resolveSubject_of_ne h]
  exact strip_claimText py claims _

/-- Without a subject in the claims the request names one. -/
theorem requesterName_of_body (h : subjectName py claims = "") {name : String} (hne : name ≠ "")
    (hstrip : strip name = name) :
    requesterName py claims (Dict.ofList []) { subject := name } = name := by
  have hheader : headerText (Dict.ofList []) "x-ai-subject" = "" := by
    unfold headerText
    decide +kernel
  unfold requesterName resolveSubject
  rw [Tenancy.firstNonempty_cons, if_pos h, Tenancy.firstNonempty_cons, if_pos hheader,
    Tenancy.firstNonempty_cons, if_neg hne, hstrip]

/-- **Which tokens never approve their own.** -/
theorem barred_iff : Barred py auth claims ↔
    ∀ headers body, ¬ MayApproveOwn py auth claims headers body := by
  constructor
  · rintro (hnot | ⟨hne, hsame⟩) headers body ⟨hcan, hdiffer⟩
    · exact hnot hcan
    · rw [requesterName_of_ne hne] at hdiffer
      exact hdiffer ⟨hne, hsame⟩
  · intro hnever
    by_contra hbarred
    obtain ⟨hcan, hnames⟩ := not_or.mp hbarred
    by_cases hne : subjectName py claims = ""
    · -- a token without a subject asks under a name of its choice
      obtain ⟨name, hstrip, hname, hother⟩ := exists_reviewer py (reviewerName py claims)
      refine hnever (Dict.ofList []) { subject := name } ⟨not_not.mp hcan, fun hsame => hother ?_⟩
      rw [requesterName_of_body hne hname hstrip] at hsame
      exact hsame.2.symm
    · refine hnever (Dict.ofList []) {} ⟨not_not.mp hcan, fun hsame => hnames ⟨hne, ?_⟩⟩
      rw [requesterName_of_ne hne] at hsame
      exact hsame.2

/-- The reviewer of a request with a verified token. -/
theorem resolveApproverIdentity_eq (hjwt : auth.jwtVerify = true) {headers : Headers}
    (hvalid : requireBearerClaims py auth headers = .ok claims) {bodyReviewer reviewer : String} :
    resolveApproverIdentity py auth headers bodyReviewer = .ok reviewer ↔
      CanReview py auth claims ∧ reviewer = reviewerName py claims := by
  unfold resolveApproverIdentity requireAnyRole CanReview
  rw [if_pos hjwt, if_neg (by decide), if_neg (not_not.mpr hjwt), hvalid]
  simp only [bind, Except.bind]
  by_cases hname : reviewerName py claims = ""
  · -- no name to review under
    rw [if_pos hname]
    constructor
    · intro h
      cases h
    · rintro ⟨⟨-, hne⟩, -⟩
      exact absurd hname hne
  · rw [if_neg hname]
    by_cases hrole : "approver" ∈ rolesFromClaims py auth claims
    · rw [if_neg (by simp [hrole])]
      constructor
      · intro h
        exact ⟨⟨hrole, hname⟩, (Except.ok.inj h).symm⟩
      · rintro ⟨-, rfl⟩
        rfl
    · -- the role is missing
      rw [if_pos (by simp [hrole])]
      constructor
      · intro h
        cases h
      · rintro ⟨⟨h, -⟩, -⟩
        exact absurd h hrole

end Names

/-! ## The evaluation and what follows it -/

section Evaluation

variable {server : Server} {headers : Headers} {merged : GovernanceEvaluateRequest}

theorem overlayCounters_subject (snapshot : Option QuotaStateSnapshot)
    (payload : GovernanceEvaluateRequest) :
    (overlayCounters snapshot payload).subject = payload.subject := by
  unfold overlayCounters
  split
  · split <;> rfl
  · rfl

/-- Enrichment does not touch the subject. -/
theorem subject_of_recordable {request : GovernanceEvaluateRequest}
    (h : Tenancy.Recordable server headers merged request) : request.subject = merged.subject := by
  rcases h with rfl | ⟨enriched, henrich, rfl⟩
  · rfl
  · unfold enrichGovernanceRequest at henrich
    dsimp only at henrich
    split at henrich
    · cases henrich
      exact overlayCounters_subject _ _
    · rw [bind_eq_ok] at henrich
      obtain ⟨cost, -, henrich⟩ := henrich
      cases henrich
      exact overlayCounters_subject (server.signals.quotaState merged.team) merged

theorem resolveSubject_supplyChain (py : PyRuntime) (claims : Claims) (headers : Headers)
    (body : GovernanceEvaluateRequest) :
    resolveSubject py claims headers (applySupplyChainHeaders body headers)
      = resolveSubject py claims headers body := by
  have hsubject : (applySupplyChainHeaders body headers).subject = body.subject := rfl
  unfold resolveSubject
  rw [hsubject]

/-- The subject of an identity. -/
theorem subject_of_identity {claims : Claims} {body : GovernanceEvaluateRequest}
    {identity : WorkloadIdentity}
    (hclaims : identityClaims server.py server.signals.auth headers = .ok claims)
    (h : resolveWorkloadIdentity server.py server.signals.auth headers
      (applySupplyChainHeaders body headers) = .ok identity) :
    identity.subject = resolveSubject server.py claims headers body := by
  unfold resolveWorkloadIdentity at h
  rw [hclaims] at h
  obtain ⟨found, hfound, hrest⟩ := bind_eq_ok.mp h
  obtain rfl := Except.ok.inj hfound
  rw [← resolveSubject_supplyChain]
  by_cases honly : server.signals.auth.tenantJwtOnly = true
  · simp only [honly, if_true] at hrest
    obtain ⟨tenant, -, hrest⟩ := bind_eq_ok.mp hrest
    rw [← Except.ok.inj hrest]
  · simp only [honly] at hrest
    obtain ⟨tenant, -, hrest⟩ := bind_eq_ok.mp hrest
    rw [← Except.ok.inj hrest]

/-- The subject of a merged request. -/
theorem mergedRequest_subject {claims : Claims} {body : GovernanceEvaluateRequest}
    (hclaims : identityClaims server.py server.signals.auth headers = .ok claims)
    (h : server.mergedRequest headers body = .ok merged) :
    merged.subject = resolveSubject server.py claims headers body := by
  unfold Server.mergedRequest at h
  cases hidentity : resolveWorkloadIdentity server.py server.signals.auth headers
      (applySupplyChainHeaders body headers) with
  | error e =>
    simp only [hidentity] at h
    cases e <;> cases h
  | ok identity =>
    simp only [hidentity] at h
    rw [← Except.ok.inj h]
    exact subject_of_identity hclaims hidentity

theorem resolveSubject_ne (py : PyRuntime) (claims : Claims) (headers : Headers)
    (body : GovernanceEvaluateRequest) : resolveSubject py claims headers body ≠ "" := by
  unfold resolveSubject
  rw [Tenancy.firstNonempty_cons, Tenancy.firstNonempty_cons, Tenancy.firstNonempty_cons,
    Tenancy.firstNonempty_singleton]
  split_ifs with h₁ h₂ h₃
  · decide
  · exact h₃
  · exact h₂
  · exact h₁

/-- The decision is recorded under the name. -/
def AskedBy (requester : String) (d : DecisionRow) : Prop := requesterOf (some d) = requester

/-- The requester of a recorded decision. -/
theorem requesterOf_recorded {result : GovernanceEvaluateResponse}
    {request : GovernanceEvaluateRequest} {requestId decisionId : String} {digests : String × String}
    {now : Instant} (hne : request.subject ≠ "") :
    requesterOf (some ((newDecision server.py server.sha256 result request requestId digests).row
      decisionId now)) = strip request.subject := by
  have hsubject : orElse request.subject request.owner = request.subject := by
    unfold orElse
    rw [if_neg hne]
  show orElse (strip (orElse request.subject request.owner))
    (strip (orElse request.subject request.owner)) = strip request.subject
  rw [hsubject]
  unfold orElse
  split
  · rfl
  · rfl

/-- **The evaluation** records its requester. -/
theorem asked_after_evaluate {claims : Claims} (process : PolicyProcess)
    (body : GovernanceEvaluateRequest) (draws : Draws) (clock : ℕ → Instant)
    (fails : ℕ → Option PyError) {rows : List Row}
    (hclaims : identityClaims server.py server.signals.auth headers = .ok claims)
    (h : Origin draws.approvalId draws.decisionId
      (AskedBy (requesterName server.py claims headers body))
      rows) :
    Origin draws.approvalId draws.decisionId (AskedBy (requesterName server.py claims headers body))
      (GateCall.after server (.governanceEvaluate process headers body draws clock) fails rows) := by
  have hreturn : ∀ x : Unit, (Prog.done (.ok x) : StoreM Unit).Issues (Prog.Preserves schema
      (Origin draws.approvalId draws.decisionId
        (AskedBy (requesterName server.py claims headers body)))) :=
    fun _ => trivial
  refine GateCall.after_keeps (Prog.issues_bind ?_ (fun _ => hreturn _)) fails h
  unfold Server.governanceEvaluate
  cases hmerged : server.mergedRequest headers body with
  | error e => exact issues_done _
  | ok merged =>
    have hsubject := mergedRequest_subject hclaims hmerged
    -- the subject that is recorded is the one of the token
    have hne : merged.subject ≠ "" := by
      rw [hsubject]
      exact resolveSubject_ne _ _ _ _
    rw [Prog.bind_ok]
    refine Tenancy.issues_evaluateMerged process _ clock
      (fun _ _ rows h => h.update (fun _ => rfl) (fun _ => rfl))
      (fun _ _ rows h => h.update (fun _ => rfl) (fun _ => rfl))
      (fun m rows h hadmits => h.insertOther hadmits rfl rfl) ?_ ?_
    · intro ttlSeconds now rows h hadmits
      refine h.insert hadmits (fun a ha _ => ?_) (fun d hd => absurd hd List.not_mem_nil)
      rw [List.mem_singleton.mp (show a ∈ [_] from ha)]
      exact ⟨rfl, (refersToDecision_iff rfl).mp (admits_iff.mp hadmits).2⟩
    · intro result request digests now hrequest rows h hadmits
      refine h.insert hadmits (fun a ha => absurd ha List.not_mem_nil) (fun d hd _ => ?_)
      unfold AskedBy
      rw [List.mem_singleton.mp (show d ∈ [_] from hd), requesterOf_recorded
        (subject_of_recordable hrequest ▸ hne), subject_of_recordable hrequest, hsubject]
      rfl

end Evaluation

/-! ## The two endpoints -/

/-- A request to approve. -/
inductive Endpoint where
  | approvals (payload : ResolveApprovalRequest) (eventId : String) (clock : ℕ → Instant)
  | remediation (proposalId : String) (payload : ResolveRemediationRequest) (eventId : String)
      (clock : ℕ → Instant)

/-- The program of a request to approve. -/
def Endpoint.program (server : Server) (headers : Headers) (approvalId : String) :
    Endpoint → StoreM Unit
  | approvals payload eventId clock => do
    let _ ← approveRequest server.py server.signals.auth headers approvalId payload eventId clock
  | remediation proposalId payload eventId clock => do
    let _ ← approveProposal server headers proposalId payload eventId clock

/-- The request moves the approval from pending to approved. -/
def Approves (server : Server) (headers : Headers) (approvalId : String) (endpoint : Endpoint)
    (fails : ℕ → Option PyError) (rows : List Row) : Prop :=
  HasApproval approvalId (fun a => a.status = .pending) rows ∧
    HasApproval approvalId (fun a => a.status = .approved)
      (outcome (endpoint.program server headers approvalId) fails rows).2

/-- The approval is not approved. -/
structure Shut (approvalId decisionId requester : String) (rows : List Row) : Prop extends
    Origin approvalId decisionId (AskedBy requester) rows where
  unapproved : ∀ a ∈ approvals rows, a.approvalId = approvalId → a.status ≠ .approved

section Refusal

variable {approvalId decisionId requester : String} {rows : List Row} {py : PyRuntime}
  {reviewer comment : String} {tenantId : Option String} {clock : ℕ → Instant}

theorem Shut.update {guard : ApprovalRow → Bool} {set : ApprovalRow → ApprovalRow}
    (h : Shut approvalId decisionId requester rows) (hid : ∀ a, (set a).approvalId = a.approvalId)
    (hd : ∀ a, (set a).decisionId = a.decisionId)
    (hset : ∀ a, guard a = true → a.approvalId = approvalId → (set a).status ≠ .approved) :
    Shut approvalId decisionId requester ((updateApprovals guard set).apply rows) where
  toOrigin := h.toOrigin.update hid hd
  unapproved a' ha' haid := by
    rw [approvals_update, List.mem_map] at ha'
    obtain ⟨a, ha, rfl⟩ := ha'
    rw [updatedApproval_id hid] at haid
    unfold updatedApproval
    split
    · rename_i hguard
      exact hset a hguard haid
    · exact h.unapproved a ha haid

theorem Shut.insertOther {row : Row} (h : Shut approvalId decisionId requester rows)
    (hadmits : schema.admits rows row = true) (happroval : approvals [row] = [])
    (hdecision : decisions [row] = []) : Shut approvalId decisionId requester (rows ++ [row]) where
  toOrigin := h.toOrigin.insertOther hadmits happroval hdecision
  unapproved a ha haid := by
    rw [approvals_append, happroval, List.append_nil] at ha
    exact h.unapproved a ha haid

theorem Shut.expire (h : Shut approvalId decisionId requester rows) (other time : String) :
    Shut approvalId decisionId requester ((expireChange other time).apply rows) :=
  h.update (fun _ => rfl) (fun _ => rfl) (fun _ _ _ hs => by cases hs)

theorem Shut.moveProposal {proposalId : String} {u : ProposalUpdate} {time : String}
    (h : Shut approvalId decisionId requester rows) :
    Shut approvalId decisionId requester ((updateProposalChange proposalId u time).apply rows) where
  toOrigin := h.toOrigin.moveProposal
  unapproved := by
    rw [approvals_updateProposal]
    exact h.unapproved

/-- **The requester** cannot resolve the approval. -/
theorem not_resolvable (h : Origin approvalId decisionId (AskedBy requester) rows)
    (hstrip : strip reviewer = reviewer) (hsame : SameName py reviewer requester)
    (a : ApprovalRow) (d : Option DecisionRow) :
    ¬ Resolvable py rows approvalId reviewer tenantId true clock a d := by
  intro hr
  obtain ⟨hfind, hd⟩ := joinDecision_some hr.joined
  obtain ⟨hid, ha⟩ := findApproval_some hfind
  obtain ⟨hdid, d', hmem, hd'⟩ := h.approval a ha hid
  -- the decision that is joined is the one that the request has recorded
  have hrequester : requesterOf d = requester := by
    cases hfound : d with
    | none =>
      rw [hfound] at hd
      exact absurd (decide_eq_true (hd'.trans hdid.symm)) (List.find?_eq_none.mp hd.symm d' hmem)
    | some found =>
      rw [hfound] at hd
      refine h.decision found (List.mem_of_find?_eq_some hd.symm) ?_
      have hsome := List.find?_some hd.symm
      exact (of_decide_eq_true hsome).trans hdid
  have hchecked := hr.checked
  unfold checkResolvable at hchecked
  dsimp only at hchecked
  rw [hrequester, hstrip] at hchecked
  have hself : (true = true ∧ requester ≠ "" ∧ py.lower reviewer = py.lower requester) :=
    ⟨rfl, hsame⟩
  rw [if_pos hself] at hchecked
  split_ifs at hchecked

/-- An attempt of the requester leaves the approval shut. -/
theorem settles_refused_self (hstrip : strip reviewer = reviewer)
    (hsame : SameName py reviewer requester) {status : ApprovalStatus} :
    (resolveApproval py approvalId status reviewer comment tenantId true clock).Settles schema
      (Shut approvalId decisionId requester) (fun _ _ => False)
      (Shut approvalId decisionId requester) := by
  refine Prog.settles_of_rows (fun rows h => ?_)
  refine (settles_resolveApproval_refused (not_resolvable h.toOrigin hstrip hsame)).mono
    (fun _ h => h) (fun _ _ h => h) ?_
  rintro rows' (rfl | rfl)
  · exact h
  · unfold lapsed
    split
    · exact h.expire _ _
    · exact h

/-- What a request leaves when it cannot approve. -/
def StaysShut (approvalId decisionId requester : String) {α : Type} (program : StoreM α) : Prop :=
  program.Meets schema (Prog.Clean (Shut approvalId decisionId requester))
    (fun _ c _ => Shut approvalId decisionId requester c)
    (fun c _ => Shut approvalId decisionId requester c)

theorem staysShut_error {α : Type} (e : PyError) :
    StaysShut approvalId decisionId requester (Prog.done (.error e) : StoreM α) :=
  Prog.meets_done (fun _ _ _ ha => by cases ha) (fun _ _ _ _ h => h.2)

theorem staysShut_of_settles {α : Type} {program : StoreM α} {Q : α → List Row → Prop}
    (h : program.Settles schema (Shut approvalId decisionId requester) Q
      (Shut approvalId decisionId requester))
    (hQ : ∀ a rows, Q a rows → Shut approvalId decisionId requester rows) :
    StaysShut approvalId decisionId requester program :=
  Prog.Meets.mono h (fun _ _ h => h) (fun a c _ h => hQ a c h.2) (fun _ _ h => h.2)

theorem staysShut_of_issues {α : Type} {program : StoreM α}
    (h : program.Issues (Prog.Preserves schema (Shut approvalId decisionId requester))) :
    StaysShut approvalId decisionId requester program :=
  h.keeps.meets.mono (fun _ _ h => ⟨h.2, h.1 ▸ h.2⟩) (fun _ _ _ h => h.2.1) (fun _ _ h => h.1)

/-- The resolution of another approval. -/
theorem issues_resolveOther {record : RemediationProposalRow} {eventId : String}
    (hother : record.approvalId.getD "" ≠ approvalId) :
    (resolveLinked py record true reviewer comment eventId clock).Issues
      (Prog.Preserves schema (Shut approvalId decisionId requester)) := by
  unfold resolveLinked
  dsimp only
  split
  · trivial
  refine Prog.issues_bind (issues_resolveApproval (fun now rows h => h.expire _ _)
    (fun _ now rows h => ?_)) (fun _ => ?_)
  · refine h.update (fun _ => rfl) (fun _ => rfl) (fun a hguard haid => ?_)
    exact absurd ((of_decide_eq_true hguard).1.symm.trans haid) hother
  · split
    · trivial
    · exact Prog.issues_bind (issues_appendAuditMeta
        (fun rows h hadmits => h.insertOther hadmits rfl rfl)) (fun _ => trivial)

/-- **Resolving a proposal** in the name of the requester. -/
theorem staysShut_resolveProposal (hstrip : strip reviewer = reviewer)
    (hsame : SameName py reviewer requester) {proposalId eventId : String} :
    StaysShut approvalId decisionId requester
      (resolveProposal py proposalId true reviewer comment tenantId eventId clock) := by
  have hload : (load proposalId tenantId).Meets schema
      (Prog.Clean (Shut approvalId decisionId requester))
      (fun _ => Prog.Clean (Shut approvalId decisionId requester))
      (fun c _ => Shut approvalId decisionId requester c) :=
    Prog.Meets.mono settles_load (fun _ _ h => h) (fun _ _ _ h => ⟨h.1, h.2.1⟩) (fun _ _ h => h.2)
  have hupdate : ∀ u : ProposalUpdate, (updateRemediationProposal proposalId u (clock 4)).Issues
      (Prog.Preserves schema (Shut approvalId decisionId requester)) :=
    fun u => issues_updateRemediationProposal (fun rows h => h.moveProposal)
  refine Prog.meets_bind hload (fun record => ?_)
  dsimp only
  refine Prog.meets_bind (Prog.meets_done (fun _ _ _ _ h => h) (fun _ _ _ _ h => h.2)) (fun _ => ?_)
  by_cases hlink : record.approvalId.getD "" = approvalId
  · by_cases hnone : record.approvalId.getD "" = ""
    · unfold resolveLinked
      dsimp only
      rw [if_pos hnone]
      exact staysShut_of_issues (hupdate _)
    · -- the approval itself: the store compares the names
      refine Prog.meets_bind (R := fun _ _ _ => False) ?_ (fun _ _ _ hσ => hσ.elim)
      unfold resolveLinked
      dsimp only
      rw [if_neg hnone, hlink]
      refine Prog.meets_bind (R := fun _ _ _ => False) ?_ (fun _ _ _ hσ => hσ.elim)
      exact Prog.Meets.mono (settles_refused_self hstrip hsame) (fun _ _ h => h)
        (fun _ _ _ h => h.2) (fun _ _ h => h.2)
  · exact staysShut_of_issues (Prog.issues_bind (issues_resolveOther hlink) (fun _ => hupdate _))

end Refusal

/-! ## Requests with a token -/

section Requests

variable {server : Server} {claims : Claims} {asked headers : Headers}
  {body : GovernanceEvaluateRequest} {approvalId decisionId : String} {rows : List Row}

/-- The reviewer is a reviewing token's name. -/
theorem reviewer_same (hjwt : server.signals.auth.jwtVerify = true)
    (hvalid : requireBearerClaims server.py server.signals.auth headers = .ok claims)
    (hnot : ¬ MayApproveOwn server.py server.signals.auth claims asked body)
    {bodyReviewer reviewer : String}
    (h : resolveApproverIdentity server.py server.signals.auth headers bodyReviewer = .ok reviewer) :
    strip reviewer = reviewer ∧
      SameName server.py reviewer (requesterName server.py claims asked body) := by
  obtain ⟨hcan, rfl⟩ := (resolveApproverIdentity_eq hjwt hvalid).mp h
  exact ⟨strip_claimText _ _ _, not_not.mp (fun hdiffer => hnot ⟨hcan, hdiffer⟩)⟩

/-- **Neither endpoint approves** in the name of the requester. -/
theorem staysShut_program (hjwt : server.signals.auth.jwtVerify = true)
    (hvalid : requireBearerClaims server.py server.signals.auth headers = .ok claims)
    (hnot : ¬ MayApproveOwn server.py server.signals.auth claims asked body) (endpoint : Endpoint) :
    StaysShut approvalId decisionId (requesterName server.py claims asked body)
      (endpoint.program server headers approvalId) := by
  have hreturn : ∀ {α : Type} {program : StoreM α},
      StaysShut approvalId decisionId (requesterName server.py claims asked body) program →
      StaysShut approvalId decisionId (requesterName server.py claims asked body)
        (do let _ ← program : StoreM Unit) := by
    intro α program h
    exact Prog.meets_bind h (fun _ => Prog.meets_done (fun _ _ _ _ h => h) (fun _ _ _ _ h => h))
  cases endpoint with
  | approvals payload eventId clock =>
    refine hreturn ?_
    unfold approveRequest resolveRequest
    cases Tenancy.tenantScope server.py server.signals.auth headers with
    | error e => exact staysShut_error e
    | ok tenantId =>
      rw [Prog.bind_ok]
      unfold resolveReviewer
      cases hreviewer : resolveApproverIdentity server.py server.signals.auth headers
          payload.reviewer with
      | error e => cases e <;> exact staysShut_error _
      | ok reviewer =>
        -- the reviewer bears the name of the requester
        obtain ⟨hstrip, hsame⟩ := reviewer_same hjwt hvalid hnot hreviewer
        refine staysShut_of_settles (Q := fun _ => Shut approvalId decisionId _)
          (Prog.settles_handle ?_ (fun e => Prog.settles_error (fun _ h => h))) (fun _ _ h => h)
        exact Prog.settles_bind (settles_refused_self hstrip hsame) (fun _ _ _ hσ => hσ.2.elim)
  | remediation proposalId payload eventId clock =>
    refine hreturn ?_
    unfold approveProposal resolveEndpoint
    cases tenantScope server headers "" with
    | error e => exact staysShut_error e
    | ok tenantId =>
      rw [Prog.bind_ok]
      cases hreviewer : resolveApproverIdentity server.py server.signals.auth headers
          payload.reviewer with
      | error e => cases e <;> exact staysShut_error _
      | ok reviewer =>
        obtain ⟨hstrip, hsame⟩ := reviewer_same hjwt hvalid hnot hreviewer
        exact Prog.meets_handle (staysShut_resolveProposal hstrip hsame)
          (fun e => Prog.meets_done (fun _ _ _ ha => by cases ha) (fun _ _ _ _ h => h))

theorem not_approves (hjwt : server.signals.auth.jwtVerify = true)
    (hvalid : requireBearerClaims server.py server.signals.auth headers = .ok claims)
    (hnot : ¬ MayApproveOwn server.py server.signals.auth claims asked body)
    (h : Origin approvalId decisionId (AskedBy (requesterName server.py claims asked body)) rows)
    (endpoint : Endpoint) (fails : ℕ → Option PyError) :
    ¬ Approves server headers approvalId endpoint fails rows := by
  rintro ⟨⟨a, ha, hid, hpending⟩, b, hb, hbid, happroved⟩
  -- the approval is pending, so it has not been approved so far
  have hshut : Shut approvalId decisionId (requesterName server.py claims asked body) rows := by
    refine ⟨h, fun a' ha' hid' => ?_⟩
    have hfound := findApproval_of_mem h.keys ha'
    rw [hid', ← hid, findApproval_of_mem h.keys ha, Option.some.injEq] at hfound
    rw [← hfound, hpending]
    decide
  obtain ⟨hok, herror⟩ := staysShut_program hjwt hvalid hnot endpoint fails (.ofRows rows)
    ⟨rfl, hshut⟩
  have hend : Shut approvalId decisionId (requesterName server.py claims asked body)
      (outcome (endpoint.program server headers approvalId) fails rows).2 := by
    cases hres : (outcome (endpoint.program server headers approvalId) fails rows).1 with
    | ok u => exact hok u hres
    | error e => exact herror e hres
  exact hend.unapproved b hb hbid happroved

/-- The approval is pending, in time and in the scope of the request. -/
structure Open (server : Server) (headers : Headers) (approvalId eventId : String)
    (clock : ℕ → Instant) (rows : List Row) : Prop where
  fresh : RowKey.auditMeta eventId ∉ rows.map Row.key
  pending : HasApproval approvalId (fun a => a.status = .pending ∧
    (a.expiresAt = "" ∨ isExpired a.expiresAt (clock 0) = .ok false)) rows
  scope : ∃ tenantId, Tenancy.tenantScope server.py server.signals.auth headers = .ok tenantId ∧
    ∀ a ∈ approvals rows, a.approvalId = approvalId →
      ∀ d ∈ decisions rows, d.decisionId = a.decisionId →
        ∀ tenant ∈ tenantId, orElse d.tenantId d.team = tenant

/-- **A reviewer with another name** approves. -/
theorem approves_of_open (hjwt : server.signals.auth.jwtVerify = true)
    (hvalid : requireBearerClaims server.py server.signals.auth headers = .ok claims)
    (hmay : MayApproveOwn server.py server.signals.auth claims asked body)
    (h : Origin approvalId decisionId (AskedBy (requesterName server.py claims asked body)) rows)
    {payload : ResolveApprovalRequest} {eventId : String} {clock : ℕ → Instant}
    (hopen : Open server headers approvalId eventId clock rows) :
    Approves server headers approvalId (.approvals payload eventId clock) (fun _ => none) rows := by
  obtain ⟨a, ha, rfl, hpending, htimely⟩ := hopen.pending
  obtain ⟨tenantId, hscope, howner⟩ := hopen.scope
  have hfind : findApproval rows a.approvalId = some a := findApproval_of_mem h.keys ha
  obtain ⟨hdid, d, hd, hdd⟩ := h.approval a ha rfl
  -- the decision that the join finds
  obtain ⟨found, hfound⟩ : ∃ found, (decisions rows).find? (fun d => d.decisionId = a.decisionId)
      = some found := by
    rw [← Option.isSome_iff_exists, List.find?_isSome]
    exact ⟨d, hd, decide_eq_true (hdd.trans hdid.symm)⟩
  have hmem := List.mem_of_find?_eq_some hfound
  have hsome := List.find?_some hfound
  have hfid : found.decisionId = a.decisionId := of_decide_eq_true hsome
  have hrequester : requesterOf (some found) = requesterName server.py claims asked body :=
    h.decision found hmem (hfid.trans hdid)
  have hr : Resolvable server.py rows a.approvalId (reviewerName server.py claims) tenantId true
      clock a (some found) := by
    refine ⟨?_, htimely, ?_⟩
    · unfold joinDecision
      rw [hfind, Option.bind_some]
      dsimp only
      rw [hfound, if_neg (by simp)]
    · have hown : (tenantId.any fun t => orElse found.tenantId found.team ≠ t) = false := by
        rw [Option.any_eq_false]
        intro tenant htenant
        simp [howner a ha rfl found hmem hfid tenant htenant]
      have hexpired : ¬ a.status = .expired := by
        rw [hpending]
        decide
      unfold checkResolvable
      dsimp only
      rw [Option.elim_some, hown, if_neg (by decide), if_neg hexpired,
        if_neg (not_not.mpr hpending), hrequester,
        show strip (reviewerName server.py claims) = reviewerName server.py claims from
          strip_claimText _ _ _, if_neg (fun hself => hmay.2 hself.2)]
  have hreviewer : resolveReviewer server.py server.signals.auth headers payload
      = .ok (reviewerName server.py claims) := by
    unfold resolveReviewer
    rw [(resolveApproverIdentity_eq hjwt hvalid).mpr ⟨hmay.1, rfl⟩]
  have hexecutes := executes_resolveAndAudit_of payload.comment "approval_approved" h.keys
    ⟨found, hmem, hfid⟩ (Or.inl rfl) hopen.fresh hr
  have hrequest : approveRequest server.py server.signals.auth headers a.approvalId payload eventId
      clock = Prog.handle (resolveAndAudit server.py a.approvalId .approved "approval_approved"
        (reviewerName server.py claims) payload.comment tenantId eventId clock)
        (fun e => Prog.done (.error (resolutionException server.py e))) := by
    unfold approveRequest resolveRequest
    simp only [hscope, hreviewer, Prog.bind_ok]
    rfl
  have hreturns := (Prog.executes_handle_throw (resolutionException server.py) hexecutes).returns
  rw [← hrequest] at hreturns
  have hprogram : ((Endpoint.approvals payload eventId clock).program server headers
      a.approvalId).Returns schema rows () (leftAt _ _ _ 11) :=
    Prog.returns_bind hreturns Prog.returns_done
  obtain ⟨t', hrun⟩ := hprogram 0
  refine ⟨⟨a, ha, rfl, hpending⟩, resolvedApproval (reviewerName server.py claims) clock .approved
    payload.comment a, ?_, rfl, rfl⟩
  unfold outcome Session.ofRows
  rw [hrun]
  dsimp only
  unfold leftAt
  rw [if_neg (by decide), if_neg (by decide), mem_approvals]
  have hresolved : findApproval (resolvedRows rows a.approvalId (reviewerName server.py claims) clock
      .approved payload.comment) a.approvalId = some _ := findApproval_resolved hfind hpending
  exact List.mem_append_left _ ((mem_approvals _).mp (findApproval_some hresolved).2)

/-- What is asked for, and what happens after. -/
def askedRun (asker : Server) (process : PolicyProcess) (asked : Headers)
    (body : GovernanceEvaluateRequest) (draws : Draws) (clock : ℕ → Instant)
    (fails : ℕ → Option PyError) (later : List ((Server × GateCall) × (ℕ → Option PyError))) :
    List ((Server × GateCall) × (ℕ → Option PyError)) :=
  ((asker, .governanceEvaluate process asked body draws clock), fails) :: later

/-- **Who approves what they have asked for.**  After a run that begins with an evaluation under
some claims, each of its requests on a server of its own and whatever fails in it, a token with the
same claims moves the approval of the evaluation from pending to approved only when it reviews under
another name than it asked with; and when it does, an open approval is approved.  A token never
approves its own exactly when it reviews nothing, or has a subject and reviews under that. -/
theorem approves_own_iff (asker server : Server) (claims : Claims) (asked headers : Headers)
    (hpy : asker.py = server.py) (hjwt : server.signals.auth.jwtVerify = true)
    (hasked : identityClaims asker.py asker.signals.auth asked = .ok claims)
    (hvalid : requireBearerClaims server.py server.signals.auth headers = .ok claims) :
    (∀ (process : PolicyProcess) (body : GovernanceEvaluateRequest) (draws : Draws)
      (clock : ℕ → Instant) (fails : ℕ → Option PyError)
      (later : List ((Server × GateCall) × (ℕ → Option PyError))) (rows : List Row),
      (rows.map Row.key).Nodup → RowKey.approval draws.approvalId ∉ rows.map Row.key →
      RowKey.decision draws.decisionId ∉ rows.map Row.key →
      (∀ call ∈ later, ∀ drawn ∈ call.1.2.draws,
        drawn.approvalId ≠ draws.approvalId ∧ drawn.decisionId ≠ draws.decisionId) →
      (∀ endpoint failing, Approves server headers draws.approvalId endpoint failing
          (runCalls (uncurry GateCall.after)
            (askedRun asker process asked body draws clock fails later) rows) →
        MayApproveOwn server.py server.signals.auth claims asked body) ∧
      ∀ payload eventId time, Open server headers draws.approvalId eventId time
          (runCalls (uncurry GateCall.after)
            (askedRun asker process asked body draws clock fails later) rows) →
        (Approves server headers draws.approvalId (.approvals payload eventId time) (fun _ => none)
          (runCalls (uncurry GateCall.after)
            (askedRun asker process asked body draws clock fails later) rows) ↔
          MayApproveOwn server.py server.signals.auth claims asked body)) ∧
    (Barred server.py server.signals.auth claims ↔
      ∀ headers body, ¬ MayApproveOwn server.py server.signals.auth claims headers body) := by
  refine ⟨fun process body draws clock fails later rows hkeys happroval hdecision hlater => ?_,
    barred_iff⟩
  -- the origin of the approval survives the requests behind it
  have hreached : Origin draws.approvalId draws.decisionId
      (AskedBy (requesterName server.py claims asked body)) (runCalls (uncurry GateCall.after)
        (askedRun asker process asked body draws clock fails later) rows) := by
    have hstart := asked_after_evaluate process body draws clock fails hasked
      (origin_of_fresh hkeys happroval hdecision)
    rw [hpy] at hstart
    show Origin _ _ _ (runCalls (uncurry GateCall.after) later
      (GateCall.after asker (.governanceEvaluate process asked body draws clock) fails rows))
    exact runCalls_invariant (uncurry GateCall.after)
      (fun request failing rows hdraws h => origin_after request.2 failing hdraws h)
      (everyStep_of_mem (P := fun request => ∀ drawn ∈ request.2.draws,
        drawn.approvalId ≠ draws.approvalId ∧ drawn.decisionId ≠ draws.decisionId)
        (uncurry GateCall.after) hlater _) hstart
  have honly : ∀ endpoint failing, Approves server headers draws.approvalId endpoint failing
      (runCalls (uncurry GateCall.after)
        (askedRun asker process asked body draws clock fails later) rows) →
      MayApproveOwn server.py server.signals.auth claims asked body := by
    intro endpoint failing happroves
    by_contra hnot
    exact not_approves hjwt hvalid hnot hreached endpoint failing happroves
  exact ⟨honly, fun payload eventId time hopen => ⟨honly _ _,
    fun hmay => approves_of_open hjwt hvalid hmay hreached hopen⟩⟩

end Requests

/-! ### A token with two names -/

/-- The token of an approver whose preferred name is not its subject. -/
def aliasClaims : Claims :=
  [("sub", .str "alice"), ("preferred_username", .str "al"), ("team", .str "platform"),
    ("roles", .arr [.str "approver"])]

/-- The token asks for an approval. -/
def aliasRun : List ((Server × GateCall) × (ℕ → Option PyError)) :=
  askedRun (Tenancy.tokenServer aliasClaims) { bundle := shippedBundle } Tenancy.bearer {}
    (Persistence.drawsOf "d1" "a1" "e1" "e2") (fun _ => 0) (fun _ => none) []

theorem valid_alias : requireBearerClaims .ascii (Tenancy.tokenServer aliasClaims).signals.auth
    Tenancy.bearer = .ok aliasClaims := by
  have htoken : bearerToken .ascii Tenancy.bearer = some "t" := by decide +kernel
  unfold requireBearerClaims
  rw [htoken]
  rfl

/-- The token approves what it has asked for. -/
theorem approves_own_iff_alias :
    Approves (Tenancy.tokenServer aliasClaims) Tenancy.bearer "a1"
        (.approvals {} "e3" (fun _ => 1)) (fun _ => none)
        (runCalls (uncurry GateCall.after) aliasRun []) ∧
      MayApproveOwn .ascii (Tenancy.tokenServer aliasClaims).signals.auth aliasClaims
        Tenancy.bearer {} := by
  have hbefore : ((approvals (runCalls (uncurry GateCall.after) aliasRun [])).any
      (fun a => a.approvalId = "a1" ∧ a.status = .pending)) = true := by decide +kernel
  have hafter : ((approvals (outcome ((Endpoint.approvals {} "e3" (fun _ => 1)).program
      (Tenancy.tokenServer aliasClaims) Tenancy.bearer "a1") (fun _ => none) (runCalls
        (uncurry GateCall.after) aliasRun [])).2).any
      (fun a => a.approvalId = "a1" ∧ a.status = .approved)) = true := by decide +kernel
  obtain ⟨a, ha, hpending⟩ := List.any_eq_true.mp hbefore
  obtain ⟨b, hb, happroved⟩ := List.any_eq_true.mp hafter
  have happroves : Approves (Tenancy.tokenServer aliasClaims) Tenancy.bearer "a1"
      (.approvals {} "e3" (fun _ => 1)) (fun _ => none)
      (runCalls (uncurry GateCall.after) aliasRun []) :=
    ⟨⟨a, ha, of_decide_eq_true hpending⟩, b, hb, of_decide_eq_true happroved⟩
  refine ⟨happroves, ?_⟩
  exact ((approves_own_iff (Tenancy.tokenServer aliasClaims) (Tenancy.tokenServer aliasClaims)
    aliasClaims Tenancy.bearer Tenancy.bearer rfl rfl (Tenancy.identityClaims_bearer _)
    valid_alias).1 _ {} _ _ _ [] []
      List.nodup_nil List.not_mem_nil List.not_mem_nil
      (fun _ hcall => absurd hcall List.not_mem_nil)).1 _ _ happroves

end ControlPlane.SelfApproval

/-
# Every human decision is in the audit trail

Recording and redeeming write their audit rows in one transaction with what they record; the
endpoints that resolve an approval, and the resolution of a remediation proposal, commit the
resolution first and append its audit row in a transaction of its own.  A failure between the two
leaves a resolution that no audit row knows of.  So it is on the pool; on the shared connection a
failing commit of the resolution is enough (`consumed_without_reviewer`).
-/
import ControlPlane.ApprovalsRouter
import ControlPlane.Remediation
import ControlPlane.Resolution
import ControlPlane.Store.SharedConnection
import ControlPlane.Store.Trails

namespace ControlPlane.AuditTrail

open Transaction Persistence
open Function (uncurry)

-- what the calls compute between their statements is not evaluated
attribute [local irreducible] strip

/-! ## Recording -/

section Recording

variable {py : PyRuntime} {sha256 : String → String} {result : GovernanceEvaluateResponse}
  {request : GovernanceEvaluateRequest} {draws : Draws} {ttlSeconds : ℤ} {clock : ℕ → Instant}
  {rows : List Row}

/-- An audit row of a new decision: it tells nothing about what becomes of an approval. -/
theorem silent_evaluationRows {digests : String × String} {m : AuditMetaRow}
    (hm : m ∈ auditMetas
      (evaluationRows py sha256 result request draws ttlSeconds clock digests)) :
    m.decisionId = draws.decisionId ∧ resolutionOf m = none ∧ isConsumption m = false := by
  -- neither of its two event types tells of a resolution or a consumption
  have hsilent : ∀ m : AuditMetaRow, m.eventType = "approval_created" ∨
      m.eventType = "decision_recorded" → resolutionOf m = none ∧ isConsumption m = false := by
    intro m htype
    unfold resolutionOf isConsumption
    rcases htype with htype | htype
    · rw [htype, if_neg (by decide), if_neg (by decide), if_neg (by decide)]
      exact ⟨rfl, by decide⟩
    · rw [htype, if_neg (by decide), if_neg (by decide), if_neg (by decide)]
      exact ⟨rfl, by decide⟩
  unfold evaluationRows approvalRows at hm
  by_cases hasks : AsksApproval result
  · rw [if_pos hasks] at hm
    have hm' : m ∈ [_, recordedRow py sha256 result request draws clock] := hm
    rcases List.mem_cons.mp hm' with rfl | hm'
    · exact ⟨rfl, hsilent _ (Or.inl rfl)⟩
    · rw [List.mem_singleton.mp hm']
      exact ⟨rfl, hsilent _ (Or.inr rfl)⟩
  · rw [if_neg hasks] at hm
    have hm' : m ∈ [recordedRow py sha256 result request draws clock] := hm
    rw [List.mem_singleton.mp hm']
    exact ⟨rfl, hsilent _ (Or.inr rfl)⟩

theorem approvals_evaluationRows (digests : String × String) :
    approvals (evaluationRows py sha256 result request draws ttlSeconds clock digests)
      = if AsksApproval result
        then [newApproval draws.decisionId ttlSeconds draws.approvalId (clock 1)] else [] := by
  unfold evaluationRows approvalRows
  by_cases hasks : AsksApproval result
  · rw [if_pos hasks, if_pos hasks]
    rfl
  · rw [if_neg hasks, if_neg hasks]
    rfl

theorem proposals_evaluationRows (digests : String × String) :
    proposals (evaluationRows py sha256 result request draws ttlSeconds clock digests) = [] := by
  unfold evaluationRows approvalRows
  by_cases hasks : AsksApproval result
  · rw [if_pos hasks]
    rfl
  · rw [if_neg hasks]
    rfl

/-- The rows of an evaluation keep the trail. -/
theorem audited_evaluation (h : Audited rows) {rows' : List Row}
    (hadded : AddedTo py sha256 result request draws ttlSeconds clock rows rows')
    (hkeys : (rows'.map Row.key).Nodup) : Audited rows' := by
  obtain ⟨hfresh, digests, rfl⟩ := hadded
  refine h.record draws.decisionId hkeys ?_ ?_ ?_ ?_
    (fun m hm => silent_evaluationRows hm) (proposals_evaluationRows digests)
  · intro d hd hid
    have hkey : (Row.decision d).key = .decision draws.decisionId := congrArg RowKey.decision hid
    exact hfresh (hkey ▸ List.mem_map_of_mem ((mem_decisions rows).mp hd))
  · refine ⟨decisionRow py sha256 result request draws clock digests, ?_, rfl⟩
    exact (mem_decisions _).mpr (List.mem_append_left _ List.mem_cons_self)
  · rw [approvals_evaluationRows]
    split <;> simp
  · rw [approvals_evaluationRows]
    intro a ha
    split at ha
    · rw [List.mem_singleton.mp ha]
      exact ⟨rfl, rfl⟩
    · cases ha

/-- No insertion makes two rows with one key. -/
theorem preserves_keys (row : Row) :
    Prog.Preserves schema (fun rows => (rows.map Row.key).Nodup) (.insert row) := by
  intro rows h hadmits
  rw [List.map_append, List.nodup_append]
  refine ⟨h, List.nodup_singleton _, fun key hkey key' hkey' hsame => ?_⟩
  rw [hsame, List.mem_singleton.mp hkey'] at hkey
  exact (admits_iff.mp hadmits).1 hkey

variable (py sha256 result request draws ttlSeconds clock) in
/-- **Recording keeps the trail**, and the rows that it adds are known. -/
theorem settles_record (h : Audited rows) :
    (persistEvaluation py sha256 result request draws ttlSeconds clock).Settles schema
      (fun rows' => rows' = rows)
      (fun recorded rows' => Audited rows' ∧ Recorded result draws recorded ∧
        AddedTo py sha256 result request draws ttlSeconds clock rows rows') Audited := by
  have hissues : (persistEvaluation py sha256 result request draws ttlSeconds clock).Issues
      (Prog.Preserves schema (fun rows => (rows.map Row.key).Nodup)) :=
    issues_persistEvaluation (fun _ => preserves_keys _) (preserves_keys _)
      (fun _ _ => preserves_keys _)
  refine ((settles_persistEvaluation py sha256 result request draws ttlSeconds clock
    rows).and_keeps hissues.keeps).mono ?_ ?_ ?_
  · rintro _ rfl
    exact ⟨rfl, h.keys⟩
  · rintro recorded rows' ⟨⟨hrecorded, hadded⟩, hkeys⟩
    exact ⟨audited_evaluation h hadded hkeys, hrecorded, hadded⟩
  · rintro rows' ⟨rfl | hadded, hkeys⟩
    · exact h
    · exact audited_evaluation h hadded hkeys

variable (py sha256 result request draws ttlSeconds clock) in
theorem settles_persist :
    (persistEvaluation py sha256 result request draws ttlSeconds clock).Settles schema Audited
      (fun _ => Audited) Audited :=
  Prog.settles_of_rows (fun _ h =>
    (settles_record py sha256 result request draws ttlSeconds clock h).mono (fun _ h => h)
      (fun _ _ h => h.1) (fun _ h => h))

end Recording

/-! ## Redeeming -/

section Redeeming

variable {py : PyRuntime} {sha256 : String → String} {request : GovernanceEvaluateRequest}
  {approvalId : String} {clock : ℕ → Instant} {rows : List Row}

theorem settles_getDecision {I : List Row → Prop} (decisionId : String) :
    (getDecision decisionId none).Settles schema I
      (fun x rows => I rows ∧ ∀ d ∈ x, d.decisionId = decisionId) I := by
  refine Prog.settles_bind (settles_session_fetchAll.mono (fun _ h => h) (fun _ _ h => h)
    (fun _ h => h)) (fun read => ?_)
  cases hfind : findDecision read decisionId with
  | none => exact Prog.settles_ok (fun rows h => ⟨h.2, fun d hd => nomatch hd⟩)
  | some d =>
    refine Prog.settles_ok (fun rows h => ⟨h.2, fun d' hd => ?_⟩)
    cases hd
    exact (findDecision_some hfind).1

/-- The transaction of a redemption. -/
theorem settles_consumeAndAudit {P : List Row → Prop} {actor requestDigest eventId : String}
    {a : ApprovalRow} (hP : ∀ rows, P rows → Audited rows ∧ a ∈ approvals rows)
    (hopen : a.isOpen = true) :
    (consumeAndAudit a.approvalId a.decisionId actor requestDigest eventId clock).Settles schema P
      (fun _ => Audited) Audited := by
  refine (settles_transaction (Q := fun _ => Audited) ?_).mono (fun _ h => h) (fun _ _ h => h) ?_
  · -- the approval is consumed first, and then the audit row is added
    refine Prog.meets_bind (R := fun consumed c r => consumed = true ∧ P c ∧
      r = (consumeChange a.approvalId (Timestamp.isoformat (clock 0))).apply c) ?_
      (fun consumed => Prog.meets_of_fact (fun hconsumed => ?_))
    · refine Prog.meets_bind (meets_execute _ (fun _ _ h => h.2)) (fun count => ?_)
      refine Prog.meets_done ?_ (fun _ _ _ he => nomatch he)
      rintro consumed c r hconsumed ⟨r', ⟨rfl, hc⟩, hcount, rfl⟩
      obtain ⟨haudited, ha⟩ := hP r' hc
      rw [countP_consume haudited.keys (haudited.find ha) hopen] at hcount
      cases hconsumed
      exact ⟨decide_eq_true hcount, hc, rfl⟩
    · rw [if_neg (not_not.mpr hconsumed)]
      refine Prog.meets_bind (Prog.meets_bind (meets_insert _ (fun _ _ h => h.1)) (fun _ =>
        Prog.meets_done (fun _ _ _ _ h => h) (fun _ _ _ he => nomatch he))) (fun event => ?_)
      refine Prog.meets_done ?_ (fun _ _ _ he => nomatch he)
      rintro _ c r - ⟨r', ⟨hc, rfl⟩, hadmits, rfl⟩
      obtain ⟨haudited, ha⟩ := hP c hc
      have hfresh := (admits_iff.mp hadmits).1
      rw [keys_consume] at hfresh
      exact ⟨hc, haudited.consume ha hopen rfl rfl hfresh⟩
  · rintro rows (h | ⟨_, h⟩)
    · exact (hP rows h).1
    · exact h

/-- **Redeeming keeps the trail**, whatever the request and whichever statements fail. -/
theorem settles_redeem (policyDigest consumedEvent : String) :
    (approvalGrantsAllow py sha256 approvalId request policyDigest consumedEvent clock).Settles
      schema Audited (fun _ => Audited) Audited := by
  refine Prog.settles_of_rows (fun rows₀ h => ?_)
  have hexpire : ∀ rows now, Untouched rows₀ approvalId rows ∧ Audited rows →
      Untouched rows₀ approvalId ((expireChange approvalId now).apply rows) ∧
        Audited ((expireChange approvalId now).apply rows) :=
    fun rows now h => ⟨h.1.expire now, h.2.expire approvalId now⟩
  have hget := settles_session_keeps (keeps_getApproval (I := fun rows =>
    Untouched rows₀ approvalId rows ∧ Audited rows) hexpire (fun _ h => h.1) clock)
  refine Prog.settles_bind (Prog.Settles.mono hget ?_ (fun _ _ h => h) (fun _ h => h.2))
    (fun approval => ?_)
  · rintro _ rfl
    exact ⟨.refl, h⟩
  unfold redeemApproval
  cases approval with
  | none => exact Prog.settles_ok (fun _ h => h.1.2)
  | some a =>
    dsimp only
    split
    · exact Prog.settles_ok (fun _ h => h.1.2)
    rename_i hopen
    rw [not_not] at hopen
    -- an open approval that was read is still there
    have hstays : ∀ rows, (Untouched rows₀ approvalId rows ∧ Audited rows) ∧
        (∀ x, Except.ok (some a) = (Except.ok x : Except PyError (Option ApprovalRow)) →
          x = findApproval rows₀ approvalId ∨ ∀ a ∈ x, a.isOpen = false) →
        Audited rows ∧ a.approvalId = approvalId ∧ a ∈ approvals rows := by
      rintro rows ⟨⟨huntouched, haudited⟩, hread⟩
      have hfind : findApproval rows₀ approvalId = some a := by
        rcases hread _ rfl with hsame | hclosed
        · exact hsame.symm
        · rw [hclosed a rfl] at hopen
          cases hopen
      rcases huntouched.approval with hsame | ⟨b, -, hb, hpending, -⟩
      · obtain ⟨hid, hmem⟩ := findApproval_some (hsame.trans hfind)
        exact ⟨haudited, hid, hmem⟩
      · rw [hfind, Option.some.injEq] at hb
        rw [← hb, (ApprovalRow.isOpen_iff.mp hopen).1] at hpending
        cases hpending
    refine Prog.settles_bind ((settles_getDecision (I := fun rows => Audited rows ∧
      a.approvalId = approvalId ∧ a ∈ approvals rows) a.decisionId).mono hstays (fun _ _ h => h)
      (fun _ h => h.1)) (fun decision => ?_)
    unfold redeemDecision
    cases decision with
    | none => exact Prog.settles_ok (fun _ h => h.1.1)
    | some d =>
      dsimp only
      split
      · exact Prog.settles_ok (fun _ h => h.1.1)
      unfold spendApproval
      refine Prog.settles_bind ((Prog.settles_of_reading issues_currentDigests).mono
        (fun _ h => h) (fun _ _ h => h) (fun _ h => h.1.1)) (fun digests => ?_)
      split
      · exact Prog.settles_ok (fun _ h => h.1.1)
      refine Prog.settles_of_rows (fun rows hrows => ?_)
      obtain ⟨⟨haudited, hid, hmem⟩, hdecision⟩ := hrows
      rw [hdecision d rfl, ← hid]
      refine settles_consumeAndAudit ?_ hopen
      rintro _ rfl
      exact ⟨haudited, hmem⟩

end Redeeming

/-! ## Resolving -/

section Resolving

variable {py : PyRuntime} {rows : List Row} {approvalId reviewer comment : String}
  {tenantId : Option String} {status : ApprovalStatus} {clock : ℕ → Instant} {a : ApprovalRow}
  {d : Option DecisionRow} {fails : ℕ → Option PyError}

/-- The first failure is not among the statements that a success of those before rules out. -/
theorem first_failure {k n i : ℕ} (h : Prog.Succeeds fails k → Prog.Succeeds fails n)
    (hfail : fails i ≠ none) (hfirst : ∀ j < i, fails j = none) : i < k ∨ n ≤ i := by
  by_contra hgap
  rw [not_or, Nat.not_lt, Nat.not_le] at hgap
  exact hfail (h (fun j hj => hfirst j (by omega)) i hgap.2)

variable (rows) in
/-- An audit row in a transaction of its own. -/
theorem executes_appendAuditMeta (m : AuditMetaRow) {now : Instant}
    (hnow : m.createdAt = Timestamp.isoformat now) (hfresh : .auditMeta m.eventId ∉ rows.map Row.key)
    (hd : ∃ d ∈ decisions rows, d.decisionId = m.decisionId) :
    (appendAuditMeta m.decisionId m.eventType m.actor m.payload m.eventId now false).Executes schema
      rows 4 (fun i => if i ≤ 1 then rows else rows ++ [.auditMeta m]) m.eventId := by
  have hadmits : schema.admits rows (.auditMeta m) = true :=
    admits_iff.mpr ⟨hfresh, (refersToDecision_iff rfl).mpr hd⟩
  have hrow : (⟨m.eventId, m.decisionId, m.eventType, m.actor, m.payload,
      Timestamp.isoformat now⟩ : AuditMetaRow) = m := by
    rw [← hnow]
  unfold appendAuditMeta
  rw [hrow]
  exact Prog.executes_map (executes_committing (writes_insertRow hadmits)) _

/-- What a resolution and its audit row leave durable when the first statement to fail is the
one number `i`: the resolution is committed by the statement 3, its audit row by the statement
8. -/
def leftAt (rows resolved recorded : List Row) (i : ℕ) : List Row :=
  if i ≤ 3 then rows else if i ≤ 8 then resolved else recorded

/-- **A resolution and its audit row** are committed one after the other. -/
theorem executes_resolve_record {β : Type} {f : ApprovalRow → StoreM β} {b : β} {m : AuditMetaRow}
    (hkeys : (rows.map Row.key).Nodup) (hstatus : status = .approved ∨ status = .rejected)
    (h : Resolvable py rows approvalId reviewer tenantId true clock a d)
    (hf : (f (resolvedApproval reviewer clock status comment a)).Executes schema
      (resolvedRows rows approvalId reviewer clock status comment) 4
      (fun i => if i ≤ 1 then resolvedRows rows approvalId reviewer clock status comment
        else resolvedRows rows approvalId reviewer clock status comment ++ [.auditMeta m]) b) :
    (resolveApproval py approvalId status reviewer comment tenantId true clock >>= f).Executes schema
      rows 11 (leftAt rows (resolvedRows rows approvalId reviewer clock status comment)
        (resolvedRows rows approvalId reviewer clock status comment ++ [.auditMeta m])) b := by
  refine (Prog.executes_bind (n := 7) (m := 4) (executes_resolveApproval hkeys hstatus h)
    hf).congr (fun i hi => ?_)
  unfold leftAt
  split_ifs <;> first | rfl | omega

/-- The audit rows after a resolution fit. -/
theorem audited_resolved (h : Audited rows)
    (hr : Resolvable py rows approvalId reviewer tenantId true clock a d)
    (hstatus : status = .approved ∨ status = .rejected) {m : AuditMetaRow}
    (hm : m.decisionId = a.decisionId) (hactor : m.actor = reviewer)
    (hrow : resolutionOf m = some status) (hfresh : .auditMeta m.eventId ∉ rows.map Row.key) :
    Audited (resolvedRows rows approvalId reviewer clock status comment ++ [.auditMeta m]) := by
  obtain ⟨hid, ha⟩ := findApproval_some hr.approval
  unfold resolvedRows
  rw [← hid, ← hactor]
  exact h.resolve ha hr.pending hstatus hm hrow hfresh

/-- A refused resolution keeps the trail. -/
theorem settles_refused
    (hnot : ∀ a d, ¬ Resolvable py rows approvalId reviewer tenantId true clock a d)
    (h : Audited rows) :
    (resolveApproval py approvalId status reviewer comment tenantId true clock).Settles schema
      (fun rows' => rows' = rows) (fun _ _ => False) Audited := by
  refine (settles_resolveApproval_refused hnot).mono (fun _ h => h) (fun _ _ h => h) ?_
  rintro _ (rfl | rfl)
  · exact h
  · unfold lapsed
    split
    · exact h.expire _ _
    · exact h

/-! ### The endpoints -/

variable {auth : AuthEnv} {headers : Headers} {payload : ResolveApprovalRequest}
  {eventType eventId : String}

/-- The request resolves the approval, unless a statement fails. -/
def Resolves (py : PyRuntime) (auth : AuthEnv) (headers : Headers) (approvalId : String)
    (payload : ResolveApprovalRequest) (clock : ℕ → Instant) (rows : List Row) : Prop :=
  ∃ tenantId reviewer a d, Tenancy.tenantScope py auth headers = .ok tenantId ∧
    resolveReviewer py auth headers payload = .ok reviewer ∧
    Resolvable py rows approvalId reviewer tenantId true clock a d

/-- The row that records what an endpoint has resolved. -/
def resolutionRow (a : ApprovalRow) (eventType eventId reviewer comment : String)
    (tenantId : Option String) (clock : ℕ → Instant) : AuditMetaRow where
  eventId := eventId
  decisionId := a.decisionId
  eventType := eventType
  actor := reviewer
  payload := [("approval_id", .str a.approvalId), ("comment", .str comment),
    ("tenant_id", tenantId.elim .null .str)]
  createdAt := Timestamp.isoformat (clock 3)

variable (comment eventType) in
/-- The two calls of an endpoint. -/
theorem executes_resolveAndAudit_of (hkeys : (rows.map Row.key).Nodup)
    (hdecided : ∃ d ∈ decisions rows, d.decisionId = a.decisionId)
    (hstatus : status = .approved ∨ status = .rejected)
    (hfresh : .auditMeta eventId ∉ rows.map Row.key)
    (hr : Resolvable py rows approvalId reviewer tenantId true clock a d) :
    (resolveAndAudit py approvalId status eventType reviewer comment tenantId eventId
      clock).Executes schema rows 11
      (leftAt rows (resolvedRows rows approvalId reviewer clock status comment)
        (resolvedRows rows approvalId reviewer clock status comment
          ++ [.auditMeta (resolutionRow a eventType eventId reviewer comment tenantId clock)]))
      (resolvedApproval reviewer clock status comment a) := by
  obtain ⟨rfl, -⟩ := findApproval_some hr.approval
  refine executes_resolve_record hkeys hstatus hr ?_
  -- the second session finds the decision of the approval
  have happend := executes_appendAuditMeta
    (resolvedRows rows a.approvalId reviewer clock status comment)
    (resolutionRow a eventType eventId reviewer comment tenantId clock) rfl
    (by rw [keys_resolvedRows]; exact hfresh)
    (by rw [decisions_resolvedRows]; exact hdecided)
  exact Prog.executes_map happend (fun _ => resolvedApproval reviewer clock status comment a)

variable (comment eventType) in
/-- The two calls of an endpoint on a store whose trail fits. -/
theorem executes_resolveAndAudit (h : Audited rows)
    (hstatus : status = .approved ∨ status = .rejected)
    (hfresh : .auditMeta eventId ∉ rows.map Row.key)
    (hr : Resolvable py rows approvalId reviewer tenantId true clock a d) :
    (resolveAndAudit py approvalId status eventType reviewer comment tenantId eventId
      clock).Executes schema rows 11
      (leftAt rows (resolvedRows rows approvalId reviewer clock status comment)
        (resolvedRows rows approvalId reviewer clock status comment
          ++ [.auditMeta (resolutionRow a eventType eventId reviewer comment tenantId clock)]))
      (resolvedApproval reviewer clock status comment a) :=
  executes_resolveAndAudit_of comment eventType h.keys
    (h.decidedApproval a (findApproval_some hr.approval).2) hstatus hfresh hr

/-- **A resolution request keeps the trail** when no failure falls between its two commits. -/
theorem audited_resolveRequest (h : Audited rows)
    (hstatus : status = .approved ∨ status = .rejected)
    (hevent : ∀ m : AuditMetaRow, m.eventType = eventType → resolutionOf m = some status)
    (hfresh : .auditMeta eventId ∉ rows.map Row.key)
    (hgap : Resolves py auth headers approvalId payload clock rows →
      Prog.Succeeds fails 4 → Prog.Succeeds fails 9) :
    Audited (outcome (resolveRequest py auth status eventType headers approvalId payload eventId
      clock) fails rows).2 := by
  unfold resolveRequest
  cases hscope : Tenancy.tenantScope py auth headers with
  | error e => exact h
  | ok tenantId =>
    rw [Prog.bind_ok]
    cases hreviewer : resolveReviewer py auth headers payload with
    | error e => exact h
    | ok reviewer =>
      rw [Prog.bind_ok]
      by_cases hr : ∃ a d, Resolvable py rows approvalId reviewer tenantId true clock a d
      · obtain ⟨a, d, hr⟩ := hr
        have hsucceeds := hgap ⟨tenantId, reviewer, a, d, hscope, hreviewer, hr⟩
        have hdone : Audited (resolvedRows rows approvalId reviewer clock status payload.comment
            ++ [.auditMeta (resolutionRow a eventType eventId reviewer payload.comment tenantId
              clock)]) :=
          audited_resolved h hr hstatus rfl rfl (hevent _ rfl) hfresh
        have hresolve := executes_resolveAndAudit payload.comment eventType h hstatus hfresh hr
        refine (Prog.executes_handle_throw (resolutionException py) hresolve).committed fails
          (fun i hi hfail hfirst => ?_) (fun _ => hdone)
        unfold leftAt
        -- before the commit of the resolution nothing is durable, behind the audit row all is
        rcases first_failure hsucceeds hfail hfirst with hbefore | hafter
        · rw [if_pos (by omega)]
          exact h
        · rw [if_neg (by omega), if_neg (by omega)]
          exact hdone
      · have hnot : ∀ a d, ¬ Resolvable py rows approvalId reviewer tenantId true clock a d :=
          fun a d hr' => hr ⟨a, d, hr'⟩
        -- an approval that is not resolvable is refused before the audit row
        have hrefused : (resolveAndAudit py approvalId status eventType reviewer payload.comment
            tenantId eventId clock).Settles schema (fun rows' => rows' = rows) (fun _ => Audited)
            Audited :=
          Prog.settles_bind (settles_refused hnot h) (fun _ _ _ hσ => hσ.2.elim)
        exact settled_outcome (Prog.settles_handle hrefused
          (fun e => Prog.settles_error (fun _ h => h))) fails rfl

end Resolving

/-! ## Remediation proposals -/

section Proposals

variable {server : Server} {proposalId : String} {tenantId : Option String} {rows : List Row}
  {clock : ℕ → Instant} {fails : ℕ → Option PyError}

theorem settles_load {P : List Row → Prop} :
    (Remediation.load proposalId tenantId).Settles schema P
      (fun record rows => P rows ∧ findProposal rows proposalId = some record ∧
        tenantId.any (fun t => record.tenantId ≠ t) = false) P := by
  refine Prog.settles_bind (R := fun found rows => P rows ∧ ∀ record ∈ found,
    findProposal rows proposalId = some record ∧
      tenantId.any (fun t => record.tenantId ≠ t) = false) ?_ (fun found => ?_)
  · refine Prog.settles_bind settles_session_fetchAll (fun read => ?_)
    split
    · exact Prog.settles_ok (fun rows h => ⟨h.2, fun _ hr => by cases hr⟩)
    · rename_i record hfind
      split
      · exact Prog.settles_ok (fun rows h => ⟨h.2, fun _ hr => by cases hr⟩)
      · rename_i htenant
        refine Prog.settles_ok (fun rows h => ⟨h.2, fun record' hr => ?_⟩)
        cases hr
        rw [← h.1]
        exact ⟨hfind, Bool.not_eq_true _ ▸ htenant⟩
  · cases found with
    | none => exact Prog.settles_error (fun _ h => h.1)
    | some record => exact Prog.settles_ok (fun _ h => ⟨h.1, h.2 record rfl⟩)

/-- An update of a proposal that keeps the trail. -/
theorem settles_updateProposal {P : List Row → Prop} {u : ProposalUpdate} {now : Instant}
    (hP : ∀ rows, P rows → Audited rows ∧
      Audited ((updateProposalChange proposalId u (Timestamp.isoformat now)).apply rows)) :
    (updateRemediationProposal proposalId u now).Settles schema P (fun _ => Audited) Audited := by
  refine (settles_onConnection (P := P) (Q := fun _ => Audited) ?_).mono (fun _ h => h)
    (fun _ _ h => h) ?_
  · have hupdate : (execute (updateProposalChange proposalId u (Timestamp.isoformat now))).Meets
        schema (Prog.Clean P) (fun _ c r => P c ∧ Audited r) (fun c _ => P c) := by
      refine (meets_execute _ (fun _ _ h => h.2)).mono (fun _ _ h => h) ?_ (fun _ _ h => h)
      rintro count c r ⟨r', ⟨rfl, hc⟩, -, rfl⟩
      exact ⟨hc, (hP r' hc).2⟩
    refine Prog.meets_bind hupdate (fun count => ?_)
    split
    · -- no proposal of that id: the session rolls back
      exact Prog.meets_done (fun _ _ _ ha => nomatch ha) (fun _ _ _ _ h => h.1)
    · refine Prog.meets_bind (meets_fetchAll (fun _ _ h => h.1)) (fun read => ?_)
      split
      · exact Prog.meets_done (fun _ _ _ _ h => h.2) (fun _ _ _ he => nomatch he)
      · exact Prog.meets_done (fun _ _ _ ha => nomatch ha) (fun _ _ _ _ h => h.2.1)
  · rintro rows (h | ⟨_, h⟩)
    · exact (hP rows h).1
    · exact h

/-- **Opening a proposal keeps the trail.** -/
theorem settles_createFromDrift (tenantId : String) (actionIndex : Option ℤ)
    (actionKind : Option String) (status : DriftStatus) (now : Instant) :
    (Remediation.createFromDrift tenantId actionIndex actionKind status proposalId now).Settles
      schema Audited (fun _ => Audited) Audited := by
  unfold Remediation.createFromDrift
  split
  · exact Prog.settles_error (fun _ h => h)
  refine Prog.settles_bind (R := fun _ => Audited)
    (Prog.settles_done (fun _ _ _ h => h) (fun _ _ _ h => h)) (fun action => ?_)
  refine Prog.settles_bind (R := fun _ => Audited) ?_ (fun id => ?_)
  · refine Prog.settles_bind (R := fun _ => Audited) ?_ (fun _ => Prog.settles_ok (fun _ h => h))
    refine (settles_onConnection (P := Audited) (Q := fun _ => Audited) ?_).mono (fun _ h => h)
      (fun _ _ h => h) ?_
    · refine (meets_insert _ (fun _ _ h => h.2)).mono (fun _ _ h => h) ?_ (fun _ _ h => h)
      rintro _ c r ⟨r', ⟨rfl, hc⟩, hadmits, rfl⟩
      exact ⟨hc, hc.open (admits_iff.mp hadmits).1 rfl⟩
    · rintro rows (h | ⟨_, h⟩)
      · exact h
      · exact h
  · -- reading the proposal back writes nothing
    refine Prog.settles_bind (Prog.settles_of_reading ?_) (fun record => ?_)
    · unfold getRemediationProposal
      refine Prog.issues_bind (issues_session issues_fetchAll) (fun read => ?_)
      split
      · trivial
      · split <;> trivial
    · cases record with
      | none => exact Prog.settles_error (fun _ h => h)
      | some record => exact Prog.settles_ok (fun _ h => h)

/-- An evaluation cites no approval. -/
theorem settles_evaluateSynced {P : List Row → Prop} (process : PolicyProcess)
    (telemetry : Option GovernanceTelemetryStage) (payload : GovernanceEvaluateRequest) :
    (server.evaluateSynced process telemetry payload).Settles schema P
      (fun result rows => P rows ∧ result.approvalId = none) P := by
  unfold Server.evaluateSynced
  refine Prog.settles_bind (R := fun _ => P) (Prog.settles_of_reading ?_) (fun synced => ?_)
  · unfold syncActiveFromStore
    refine Prog.issues_bind (Prog.issues_handle ?_ (fun _ => trivial)) (fun _ => trivial)
    exact Prog.issues_bind (issues_session issues_fetchAll) (fun _ => trivial)
  refine Prog.settles_bind (R := fun _ => P)
    (Prog.settles_done (fun _ _ _ h => h) (fun _ _ _ h => h)) (fun stages => ?_)
  refine Prog.settles_bind (R := fun _ => P) (Prog.settles_of_reading issues_currentDigests)
    (fun digests => ?_)
  exact Prog.settles_ok (fun _ h => ⟨h, rfl⟩)

/-- Only an open proposal is evaluated. -/
theorem requireTransition_policyEvaluated {status : RemediationStatus}
    (h : Remediation.requireTransition status .policyEvaluated = .ok ()) : status = .proposed := by
  cases status with
  | proposed => rfl
  | _ => cases h

/-- A recorded evaluation links a proposal to the approval that it asks for. -/
theorem audited_linked {result recorded : GovernanceEvaluateResponse}
    {request : GovernanceEvaluateRequest} {draws : Draws} {ttlSeconds : ℤ}
    {clock' : ℕ → Instant} {rows' : List Row} {record : RemediationProposalRow} {now : String}
    (hnone : result.approvalId = none) (hdraw : draws.decisionId ≠ "") (h : Audited rows)
    (hrecord : record ∈ proposals rows) (hstatus : record.status = .proposed)
    (h' : Audited rows') (hrecorded : Recorded result draws recorded)
    (hadded : AddedTo server.py server.sha256 result request draws ttlSeconds clock' rows rows') :
    Audited ((updateProposalChange record.proposalId {
      status := some (Remediation.statusOf recorded.finalVerdict)
      decisionId := recorded.decisionId
      approvalId := recorded.approvalId
      policyVerdict := some recorded.finalVerdict } now).apply rows') := by
  obtain ⟨hdecisionId, happrovalId, -⟩ := hrecorded
  obtain ⟨-, digests, rfl⟩ := hadded
  refine h'.updateProposal (fun p hp hid => ?_)
  rw [proposals_append, proposals_evaluationRows, List.append_nil] at hp
  obtain rfl := h.eq_of_proposal hp hrecord hid
  -- a proposal that is not evaluated yet cites no approval, so the link is the new one
  have hunlinked := h.unevaluated p hp (Or.inr hstatus)
  have hverdict : ∀ verdict, Remediation.statusOf verdict ≠ .detected ∧
      Remediation.statusOf verdict ≠ .proposed := by
    intro verdict
    cases verdict <;> decide
  refine ⟨(hverdict _).1, (hverdict _).2, fun hlink => ?_⟩
  have hlink' : (recorded.approvalId <|> p.approvalId).getD "" ≠ "" := hlink
  rw [hunlinked, happrovalId] at hlink'
  unfold citedApproval at hlink' happrovalId
  by_cases hasks : AsksApproval result
  · rw [if_pos hasks] at happrovalId
    refine ⟨newApproval draws.decisionId ttlSeconds draws.approvalId (clock' 1), ?_, ?_, ?_, hdraw⟩
    · rw [approvals_append, approvals_evaluationRows, if_pos hasks]
      exact List.mem_append_right _ (List.mem_singleton_self _)
    · show (recorded.approvalId <|> p.approvalId) = _
      rw [happrovalId]
      rfl
    · show (recorded.decisionId <|> p.decisionId) = _
      rw [hdecisionId]
      rfl
  · rw [if_neg hasks, hnone] at hlink'
    exact absurd rfl hlink'

/-- **Evaluating a proposal keeps the trail.** -/
theorem settles_evaluatePolicy (process : PolicyProcess) (environment : String)
    (team : Option String) {draws : Draws} (hdraw : draws.decisionId ≠ "") :
    (Remediation.evaluatePolicy server process proposalId tenantId environment team draws
      clock).Settles schema Audited (fun _ => Audited) Audited := by
  unfold Remediation.evaluatePolicy
  refine Prog.settles_bind settles_load (fun record => ?_)
  refine Prog.settles_bind (R := fun _ rows => (Audited rows ∧ record ∈ proposals rows) ∧
    record.proposalId = proposalId ∧ record.status = .proposed)
    (Prog.settles_done ?_ (fun _ _ _ h => h.1)) (fun _ => ?_)
  · rintro _ rows hok ⟨haudited, hfind, -⟩
    obtain ⟨hid, hmem⟩ := findProposal_some hfind
    exact ⟨⟨haudited, hmem⟩, hid, requireTransition_policyEvaluated hok⟩
  refine Prog.settles_bind ((settles_evaluateSynced process none _).mono (fun _ h => h)
    (fun _ _ h => h) (fun _ h => h.1.1)) (fun result => ?_)
  refine Prog.settles_of_rows (fun rows hrows => ?_)
  obtain ⟨⟨⟨haudited, hrecord⟩, rfl, hstatus⟩, hnone⟩ := hrows
  refine Prog.settles_bind (settles_record _ _ _ _ _ _ _ haudited) (fun recorded => ?_)
  refine settles_updateProposal (fun rows' h => ⟨h.1, ?_⟩)
  exact audited_linked hnone (by exact hdraw) haudited hrecord hstatus h.1 h.2.1 h.2.2

/-! ### The resolution of a proposal -/

variable {py : PyRuntime} {approved : Bool} {reviewer comment eventId : String}

/-- The status after the resolution of a proposal. -/
def target (approved : Bool) : RemediationStatus := if approved then .approved else .rejected

/-- The call resolves the approval of its proposal, unless a statement fails. -/
def ResolvesProposal (py : PyRuntime) (proposalId : String) (approved : Bool) (reviewer : String)
    (tenantId : Option String) (clock : ℕ → Instant) (rows : List Row) : Prop :=
  ∃ record a d, findProposal rows proposalId = some record ∧
    tenantId.any (fun t => record.tenantId ≠ t) = false ∧
    Remediation.requireTransition record.status (target approved) = .ok () ∧
    record.approvalId.getD "" ≠ "" ∧
    Resolvable py rows (record.approvalId.getD "") reviewer none true clock a d

/-- The status of a proposal moves on. -/
theorem settles_moveProposal {now : Instant} (approved : Bool) :
    (updateRemediationProposal proposalId { status := some (target approved) } now).Settles schema
      Audited (fun _ => Audited) Audited := by
  refine settles_updateProposal (fun rows h => ⟨h, h.updateProposal (fun p hp _ => ?_)⟩)
  refine ⟨?_, ?_, fun hlink => ?_⟩
  · cases approved <;> exact fun h => nomatch h
  · cases approved <;> exact fun h => nomatch h
  · exact h.linked p hp hlink

theorem executes_load {record : RemediationProposalRow}
    (hfind : findProposal rows proposalId = some record)
    (htenant : tenantId.any (fun t => record.tenantId ≠ t) = false) :
    (Remediation.load proposalId tenantId).Executes schema rows 3 (fun _ => rows) record := by
  have hget : (getRemediationProposal proposalId tenantId).Executes schema rows 3 (fun _ => rows)
      (some record) := by
    refine Prog.executes_bind_const (n := 3) (m := 0) (executes_session executes_fetchAll) ?_
      (fun _ => rfl)
    rw [hfind]
    dsimp only
    rw [if_neg (by rw [htenant]; decide)]
    exact Prog.executes_done (some record)
  exact Prog.executes_bind_const (n := 3) (m := 0) hget (Prog.executes_done record) (fun _ => rfl)

/-- The row that records the resolution of a proposal. -/
def proposalRow (record : RemediationProposalRow) (a : ApprovalRow) (approved : Bool)
    (reviewer comment eventId : String) (clock : ℕ → Instant) : AuditMetaRow where
  eventId := eventId
  decisionId := a.decisionId
  eventType := "remediation_resolved"
  actor := reviewer
  payload := [("proposal_id", .str record.proposalId),
    ("status", .str (if approved then "approved" else "rejected")), ("comment", .str comment)]
  createdAt := Timestamp.isoformat (clock 3)

/-- The resolution of an approval. -/
def resolution (approved : Bool) : ApprovalStatus := if approved then .approved else .rejected

theorem resolution_cases (approved : Bool) :
    resolution approved = .approved ∨ resolution approved = .rejected := by
  cases approved
  · exact Or.inr rfl
  · exact Or.inl rfl

theorem resolutionOf_proposalRow (record : RemediationProposalRow) (a : ApprovalRow) :
    resolutionOf (proposalRow record a approved reviewer comment eventId clock)
      = some (resolution approved) := by
  have htype : (proposalRow record a approved reviewer comment eventId clock).eventType
      = "remediation_resolved" := rfl
  unfold resolutionOf
  rw [htype, if_neg (by decide), if_neg (by decide), if_pos rfl]
  cases approved <;> rfl

/-- The approval of a proposal is resolved, and the resolution is recorded. -/
theorem executes_resolveLinked {record : RemediationProposalRow} {a : ApprovalRow}
    {d : Option DecisionRow} (h : Audited rows) (hrecord : record ∈ proposals rows)
    (hlink : record.approvalId.getD "" ≠ "") (hfresh : .auditMeta eventId ∉ rows.map Row.key)
    (hr : Resolvable py rows (record.approvalId.getD "") reviewer none true clock a d) :
    (Remediation.resolveLinked py record approved reviewer comment eventId clock).Executes schema
      rows 11
      (leftAt rows
        (resolvedRows rows (record.approvalId.getD "") reviewer clock (resolution approved) comment)
        (resolvedRows rows (record.approvalId.getD "") reviewer clock (resolution approved) comment
          ++ [.auditMeta (proposalRow record a approved reviewer comment eventId clock)])) () := by
  obtain ⟨hid, ha⟩ := findApproval_some hr.approval
  obtain ⟨b, hb, hbid, hbd, hne⟩ := h.linked record hrecord hlink
  -- the approval that the proposal cites is the one that is resolved
  have hab : b = a := by
    refine h.eq_of_id hb ha ?_
    rw [hid, hbid]
    rfl
  rw [hab] at hbd hne
  unfold Remediation.resolveLinked
  dsimp only
  rw [if_neg hlink]
  refine executes_resolve_record h.keys (resolution_cases approved) hr ?_
  rw [hbd, Option.getD_some, if_neg hne]
  have happend := executes_appendAuditMeta
    (resolvedRows rows (record.approvalId.getD "") reviewer clock (resolution approved) comment)
    (proposalRow record a approved reviewer comment eventId clock) rfl
    (by rw [keys_resolvedRows]; exact hfresh)
    (by rw [decisions_resolvedRows]; exact h.decidedApproval a ha)
  exact Prog.executes_map happend (fun _ => ())

/-- **Resolving a proposal keeps the trail** when no failure falls between the commits of the
resolution and of its audit row. -/
theorem audited_resolveProposal (h : Audited rows) (hfresh : .auditMeta eventId ∉ rows.map Row.key)
    (hgap : ResolvesProposal py proposalId approved reviewer tenantId clock rows →
      Prog.Succeeds fails 7 → Prog.Succeeds fails 12) :
    Audited (outcome (Remediation.resolveProposal py proposalId approved reviewer comment tenantId
      eventId clock) fails rows).2 := by
  by_cases hresolves : ResolvesProposal py proposalId approved reviewer tenantId clock rows
  · obtain ⟨record, a, d, hfind, htenant, hmove, hlink, hr⟩ := id hresolves
    obtain ⟨hid, hrecord⟩ := findProposal_some hfind
    have hdone : Audited (resolvedRows rows (record.approvalId.getD "") reviewer clock
        (resolution approved) comment
        ++ [.auditMeta (proposalRow record a approved reviewer comment eventId clock)]) :=
      audited_resolved h hr (resolution_cases approved) rfl rfl (resolutionOf_proposalRow record a)
        hfresh
    have hall := Prog.executes_bind (n := 3) (m := 11)
      (f := fun record => Prog.done (Remediation.requireTransition record.status (target approved))
        >>= fun _ => Remediation.resolveLinked py record approved reviewer comment eventId clock)
      (executes_load hfind htenant) (by
        rw [hmove]
        exact executes_resolveLinked h hrecord hlink hfresh hr)
    -- what follows the audit row only moves the proposal
    have hsplit : Remediation.resolveProposal py proposalId approved reviewer comment tenantId
        eventId clock = ((Remediation.load proposalId tenantId >>= fun record =>
          Prog.done (Remediation.requireTransition record.status (target approved)) >>= fun _ =>
            Remediation.resolveLinked py record approved reviewer comment eventId clock) >>=
          fun _ => updateRemediationProposal proposalId { status := some (target approved) }
            (clock 4)) := by
      rw [Prog.bind_assoc]
      refine congrArg (Remediation.load proposalId tenantId >>= ·) (funext (fun record => ?_))
      exact (Prog.bind_assoc _ _ _).symm
    unfold outcome
    rw [hsplit]
    refine hall.committed_bind (settles_moveProposal approved) fails (fun i hi hfail hfirst => ?_)
      (fun _ => hdone)
    unfold leftAt
    rcases first_failure (hgap hresolves) hfail hfirst with hbefore | hafter
    · split_ifs <;> first | exact h | omega
    · split_ifs <;> first | exact hdone | omega
  · have hsettles : (Remediation.resolveProposal py proposalId approved reviewer comment tenantId
        eventId clock).Settles schema (fun rows' => rows' = rows) (fun _ => Audited) Audited := by
      refine Prog.settles_bind (settles_load.mono (fun _ h => h) (fun _ _ h => h) ?_)
        (fun record => ?_)
      · rintro _ rfl
        exact h
      refine Prog.settles_bind (R := fun _ rows' => rows' = rows ∧ ∀ a d,
          record.approvalId.getD "" ≠ "" →
            ¬ Resolvable py rows (record.approvalId.getD "") reviewer none true clock a d)
        (Prog.settles_done ?_ ?_) (fun _ => ?_)
      · rintro _ _ hmove ⟨rfl, hfind, htenant⟩
        exact ⟨rfl, fun a d hlink hr => hresolves ⟨record, a, d, hfind, htenant, hmove, hlink, hr⟩⟩
      · rintro _ _ - ⟨rfl, -⟩
        exact h
      refine Prog.settles_bind (R := fun _ => Audited) ?_ (fun _ => settles_moveProposal approved)
      unfold Remediation.resolveLinked
      dsimp only
      by_cases hlink : record.approvalId.getD "" = ""
      · -- a proposal without an approval resolves nothing
        rw [if_pos hlink]
        refine Prog.settles_ok ?_
        rintro _ ⟨rfl, -⟩
        exact h
      · rw [if_neg hlink]
        intro fails σ hσ
        exact Prog.settles_bind (settles_refused (fun a d => hσ.2.2 a d hlink) h)
          (fun _ _ _ hσ => hσ.2.elim) fails σ ⟨hσ.1, hσ.2.1⟩
    exact settled_outcome hsettles fails rfl

end Proposals

/-! ## `POST /governance/evaluate` -/

section Evaluate

-- what the endpoint computes between its statements is not evaluated
attribute [local irreducible] headerText runBundle enrichGovernanceRequest PolicyProcess.catchUp
  Server.grantedResponse

variable {server : Server}

/-- **A request keeps the trail**, whether it redeems an approval or asks for one. -/
theorem settles_governanceEvaluate (process : PolicyProcess) (headers : Headers)
    (body : GovernanceEvaluateRequest) (draws : Draws) (clock : ℕ → Instant) :
    (server.governanceEvaluate process headers body draws clock).Settles schema Audited
      (fun _ => Audited) Audited := by
  -- every part of the endpoint keeps the trail by itself
  have hstep : pythonStep.Settles schema Audited (fun _ => Audited) Audited :=
    settles_pythonStep (fun _ h => h)
  have hreturn : ∀ {α : Type} (a : α),
      (pure a : StoreM α).Settles schema Audited (fun _ => Audited) Audited :=
    fun _ => Prog.settles_ok (fun _ h => h)
  have hdone : ∀ {α : Type} (x : Except PyError α),
      (Prog.done x : StoreM α).Settles schema Audited (fun _ => Audited) Audited :=
    fun _ => Prog.settles_done (fun _ _ _ h => h) (fun _ _ _ h => h)
  have hredeem : ∀ merged approvalId draws clock,
      (server.redeem process merged approvalId draws clock).Settles schema Audited
        (fun _ => Audited) Audited := by
    intro merged approvalId draws clock
    unfold Server.redeem
    split
    · exact hreturn false
    · exact settles_redeem _ _
  have hgranted : ∀ merged approvalId draws clock,
      (server.allowRedeemed process merged approvalId draws clock).Settles schema Audited
        (fun _ => Audited) Audited := by
    intro merged approvalId draws clock
    refine Prog.settles_bind hstep (fun _ => ?_)
    refine Prog.settles_bind (settles_persist _ _ _ _ _ _ _) (fun result => ?_)
    exact Prog.settles_bind hstep (fun _ => hreturn result)
  have hfresh : ∀ merged draws clock,
      (server.evaluateFresh process headers merged draws clock).Settles schema Audited
        (fun _ => Audited) Audited := by
    intro merged draws clock
    refine Prog.settles_bind (hdone _) (fun enriched => ?_)
    refine Prog.settles_bind ((settles_evaluateSynced (P := Audited) process _ _).mono
      (fun _ h => h) (fun _ _ h => h.1) (fun _ h => h)) (fun result => ?_)
    exact settles_persist _ _ _ _ _ _ _
  unfold Server.governanceEvaluate
  refine Prog.settles_bind (hdone _) (fun merged => ?_)
  unfold Server.evaluateMerged
  have hevaluate : ∀ draws, (server.evaluateOrRedeem process headers merged draws clock).Settles
      schema Audited (fun _ => Audited) Audited := by
    intro draws
    refine Prog.settles_bind (hredeem _ _ _ _) (fun granted => ?_)
    split
    · exact Prog.settles_bind (hgranted _ _ _ _) (fun result => hreturn _)
    · exact Prog.settles_bind (hfresh _ _ _) (fun result => hreturn _)
  refine Prog.settles_bind (Prog.settles_handle (hevaluate _) (fun e => hdone _))
    (fun evaluated => ?_)
  unfold Server.auditFresh
  split
  · exact hreturn _
  · exact Prog.settles_bind hstep (fun _ => hreturn _)

end Evaluate

/-! ## Runs -/

/-- A request that records, resolves or redeems, with the ids it draws and the readings of its
clock. -/
inductive TrailCall where
  | persistEvaluation (result : GovernanceEvaluateResponse) (request : GovernanceEvaluateRequest)
      (draws : Draws) (ttlSeconds : ℤ) (clock : ℕ → Instant)
  | approvalGrantsAllow (approvalId : String) (request : GovernanceEvaluateRequest)
      (policyDigest consumedEvent : String) (clock : ℕ → Instant)
  | governanceEvaluate (process : PolicyProcess) (headers : Headers)
      (body : GovernanceEvaluateRequest) (draws : Draws) (clock : ℕ → Instant)
  | approveRequest (headers : Headers) (approvalId : String) (payload : ResolveApprovalRequest)
      (eventId : String) (clock : ℕ → Instant)
  | rejectRequest (headers : Headers) (approvalId : String) (payload : ResolveApprovalRequest)
      (eventId : String) (clock : ℕ → Instant)
  | createFromDrift (tenantId : String) (actionIndex : Option ℤ) (actionKind : Option String)
      (status : DriftStatus) (proposalId : String) (now : Instant)
  | evaluatePolicy (process : PolicyProcess) (proposalId : String) (tenantId : Option String)
      (environment : String) (team : Option String) (draws : Draws) (clock : ℕ → Instant)
  | resolveProposal (proposalId : String) (approved : Bool) (reviewer comment : String)
      (tenantId : Option String) (eventId : String) (clock : ℕ → Instant)

namespace TrailCall

variable (server : Server)

/-- The rows that a request leaves, when it runs alone. -/
def after (call : TrailCall) (fails : ℕ → Option PyError) (rows : List Row) : List Row :=
  match call with
  | persistEvaluation result request draws ttlSeconds clock =>
    (outcome (ControlPlane.persistEvaluation server.py server.sha256 result request draws
      ttlSeconds clock) fails rows).2
  | approvalGrantsAllow approvalId request policyDigest consumedEvent clock =>
    (outcome (ControlPlane.approvalGrantsAllow server.py server.sha256 approvalId request
      policyDigest consumedEvent clock) fails rows).2
  | governanceEvaluate process headers body draws clock =>
    (outcome (server.governanceEvaluate process headers body draws clock) fails rows).2
  | approveRequest headers approvalId payload eventId clock =>
    (outcome (ControlPlane.approveRequest server.py server.signals.auth headers approvalId payload
      eventId clock) fails rows).2
  | rejectRequest headers approvalId payload eventId clock =>
    (outcome (ControlPlane.rejectRequest server.py server.signals.auth headers approvalId payload
      eventId clock) fails rows).2
  | createFromDrift tenantId actionIndex actionKind status proposalId now =>
    (outcome (Remediation.createFromDrift tenantId actionIndex actionKind status proposalId now)
      fails rows).2
  | evaluatePolicy process proposalId tenantId environment team draws clock =>
    (outcome (Remediation.evaluatePolicy server process proposalId tenantId environment team draws
      clock) fails rows).2
  | resolveProposal proposalId approved reviewer comment tenantId eventId clock =>
    (outcome (Remediation.resolveProposal server.py proposalId approved reviewer comment tenantId
      eventId clock) fails rows).2

/-- What a `uuid4` gives: the id of an audit row is new, the id of a decision is not empty. -/
def DrawsUuids (rows : List Row) : TrailCall → Prop
  | approveRequest _ _ _ eventId _ => .auditMeta eventId ∉ rows.map Row.key
  | rejectRequest _ _ _ eventId _ => .auditMeta eventId ∉ rows.map Row.key
  | resolveProposal _ _ _ _ _ eventId _ => .auditMeta eventId ∉ rows.map Row.key
  | evaluatePolicy _ _ _ _ _ draws _ => draws.decisionId ≠ ""
  | _ => True

/-- No failure falls between the commit of a resolution and the commit of its audit row.  The
two are the statements 3 and 8, or 6 and 11 behind the three that read a proposal. -/
def NoGap (fails : ℕ → Option PyError) (rows : List Row) : TrailCall → Prop
  | approveRequest headers approvalId payload _ clock =>
    Resolves server.py server.signals.auth headers approvalId payload clock rows →
      Prog.Succeeds fails 4 → Prog.Succeeds fails 9
  | rejectRequest headers approvalId payload _ clock =>
    Resolves server.py server.signals.auth headers approvalId payload clock rows →
      Prog.Succeeds fails 4 → Prog.Succeeds fails 9
  | resolveProposal proposalId approved reviewer _ tenantId _ clock =>
    ResolvesProposal server.py proposalId approved reviewer tenantId clock rows →
      Prog.Succeeds fails 7 → Prog.Succeeds fails 12
  | _ => True

variable {server}

/-- **One request keeps the trail.** -/
theorem audited_after (call : TrailCall) (fails : ℕ → Option PyError) (rows : List Row)
    (h : DrawsUuids rows call ∧ NoGap server fails rows call) (hrows : Audited rows) :
    Audited (call.after server fails rows) := by
  obtain ⟨hdraws, hgap⟩ := h
  cases call with
  | persistEvaluation result request draws ttlSeconds clock =>
    exact settled_outcome (settles_persist _ _ _ _ _ _ _) fails hrows
  | approvalGrantsAllow approvalId request policyDigest consumedEvent clock =>
    exact settled_outcome (settles_redeem _ _) fails hrows
  | governanceEvaluate process headers body draws clock =>
    exact settled_outcome (settles_governanceEvaluate _ _ _ _ _) fails hrows
  | approveRequest headers approvalId payload eventId clock =>
    refine audited_resolveRequest hrows (Or.inl rfl) (fun m hm => ?_) hdraws hgap
    unfold resolutionOf
    rw [if_pos hm]
  | rejectRequest headers approvalId payload eventId clock =>
    refine audited_resolveRequest hrows (Or.inr rfl) (fun m hm => ?_) hdraws hgap
    unfold resolutionOf
    rw [hm, if_neg (by decide), if_pos rfl]
  | createFromDrift tenantId actionIndex actionKind status proposalId now =>
    exact settled_outcome (settles_createFromDrift _ _ _ _ _) fails hrows
  | evaluatePolicy process proposalId tenantId environment team draws clock =>
    exact settled_outcome (settles_evaluatePolicy _ _ _ hdraws) fails hrows
  | resolveProposal proposalId approved reviewer comment tenantId eventId clock =>
    exact audited_resolveProposal hrows hdraws hgap

end TrailCall

/-- **The audit trail is complete and truthful where no failure falls into a gap.**  In every
run of requests on the pool, each on a server of its own (its signals, its quotas, its tokens) and
cut short by any failure that does not fall between the two commits of a resolution: each approval
that is approved, rejected or consumed has the audit row of its resolution, with its reviewer; each
consumed one has one row of its consumption; and no row says what did not happen. -/
theorem trail_of_noGap (calls : List ((Server × TrailCall) × (ℕ → Option PyError)))
    (rows : List Row) (hkeys : (rows.map Row.key).Nodup) (happrovals : approvals rows = [])
    (hmetas : auditMetas rows = []) (hproposals : proposals rows = [])
    (h : EveryStep (uncurry TrailCall.after) (fun request fails rows =>
      request.2.DrawsUuids rows ∧ request.2.NoGap request.1 fails rows) calls rows) :
    ∀ a ∈ approvals (runCalls (uncurry TrailCall.after) calls rows),
      Trail (auditMetas (runCalls (uncurry TrailCall.after) calls rows)) a :=
  (runCalls_invariant (uncurry TrailCall.after)
    (fun request fails rows h hrows => TrailCall.audited_after request.2 fails rows h hrows) h
    (audited_of_empty hkeys happrovals hmetas hproposals)).trail

/-! ## Two runs -/

/-- A server without tokens and tenants. -/
def demoServer : Server :=
  { Tenancy.tokenServer [] with
    signals := { (Tenancy.tokenServer []).signals with
      auth := { verifyBearerToken := fun _ => none, decodeUnsignedPayload := fun _ => none } } }

/-- An approval is recorded, granted and redeemed; the grant may fail somewhere. -/
def grantRun (fails : ℕ → Option PyError) : List ((Server × TrailCall) × (ℕ → Option PyError)) :=
  [((demoServer, .persistEvaluation askingResponse {} (drawsOf "d1" "a1" "e1" "e2") 3600
      (fun _ => 0)), fun _ => none),
    ((demoServer, .approveRequest (Dict.ofList []) "a1" { reviewer := "bob" } "e3" (fun _ => 1)),
      fails),
    ((demoServer, .approvalGrantsAllow "a1" {} "" "e4" (fun _ => 2)), fun _ => none)]

/-- The rows after such a run. -/
def rowsAfter (fails : ℕ → Option PyError) : List Row :=
  runCalls (uncurry TrailCall.after) (grantRun fails) []

/-- Nothing fails. -/
theorem trail_of_noGap_granted :
    (approvals (rowsAfter (fun _ => none))).map ApprovalRow.status = [.consumed] ∧
      ∀ a ∈ approvals (rowsAfter (fun _ => none)),
        Trail (auditMetas (rowsAfter (fun _ => none))) a := by
  refine ⟨by decide +kernel, trail_of_noGap (grantRun (fun _ => none)) [] List.nodup_nil
    rfl rfl rfl ⟨⟨trivial, trivial⟩, ⟨?_, ?_⟩, ⟨trivial, trivial⟩, trivial⟩⟩
  · show RowKey.auditMeta "e3" ∉ _
    decide +kernel
  · exact fun _ _ _ _ => rfl

/-- The calls of an endpoint on either backend. -/
def resolveAndAuditOn (b : Backend) (py : PyRuntime) (approvalId : String)
    (status : ApprovalStatus) (eventType reviewer comment : String) (tenantId : Option String)
    (eventId : String) (clock : ℕ → Instant) : StoreM ApprovalRow := do
  let record ← b.resolveApproval py approvalId status reviewer comment tenantId true clock
  let _ ← b.appendAuditMeta record.decisionId eventType reviewer
    [("approval_id", .str approvalId), ("comment", .str comment),
      ("tenant_id", tenantId.elim .null .str)] eventId (clock 3)
  return record

theorem resolveAndAuditOn_pool : resolveAndAuditOn .pool = resolveAndAudit := rfl

/-- On the shared connection: the grant of a recorded approval, whose commit fails. -/
def pendingGrant : Except PyError ApprovalRow × Session Row :=
  (resolveAndAuditOn .shared demoServer.py "a1" .approved "approval_approved" "bob" "" none "e3"
    (fun _ => 1)).run schema (fun i => if i = 3 then some storeUnavailable else none)
      (.ofRows (runCalls (uncurry TrailCall.after) ((grantRun (fun _ => none)).take 1) []))

/-- The transaction that redeems the approval on the same connection. -/
def pendingRedemption : Except PyError Bool × Session Row :=
  (Backend.shared.consumeAndAudit "a1" "d1" "" "" "e4" (fun _ => 2)).run schema (fun _ => none)
    { pendingGrant.2 with time := 0 }

/-- An approval was consumed, and no row tells of its resolution. -/
theorem not_trail {rows : List Row}
    (hstatus : (approvals rows).map ApprovalRow.status = [.consumed])
    (hsilent : (auditMetas rows).all (fun m => resolutionOf m = none) = true) :
    ¬ ∀ a ∈ approvals rows, Trail (auditMetas rows) a := by
  intro h
  obtain ⟨a, hrows, hconsumed⟩ := List.map_eq_singleton_iff.mp hstatus
  obtain ⟨m, hm, -, hresolution, -⟩ := (h a (hrows ▸ List.mem_singleton_self a)).recorded .approved
    (by rw [hconsumed]; rfl)
  have hnone := of_decide_eq_true (List.all_eq_true.mp hsilent m hm)
  rw [hnone] at hresolution
  cases hresolution

/-- **Nobody knows who approved.**  The insertion of the audit row fails after the resolution is
committed; the approval is consumed all the same.  On the shared connection it is enough that the
commit of the resolution fails: the resolution stays pending, and the transaction of the redemption
makes it durable. -/
theorem consumed_without_reviewer :
    (¬ ∀ a ∈ approvals (rowsAfter (fun i => if i = 7 then some storeUnavailable else none)),
      Trail (auditMetas (rowsAfter (fun i => if i = 7 then some storeUnavailable else none))) a) ∧
    pendingGrant.1.toOption.map ApprovalRow.approvalId = none ∧
      ¬ ∀ a ∈ approvals pendingRedemption.2.committed,
        Trail (auditMetas pendingRedemption.2.committed) a :=
  ⟨not_trail (by decide +kernel) (by decide +kernel), by decide +kernel,
    not_trail (by decide +kernel) (by decide +kernel)⟩

end ControlPlane.AuditTrail

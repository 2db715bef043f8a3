/-
# Recording an evaluation

`persist_evaluation` is one transaction of up to four inserts: whichever statement fails, the
store has all of its rows afterwards or none.  An approval is only ever inserted behind the
decision that asks for it, and purging removes both, so no approval is left without one.
-/
import ControlPlane.Store.Statements
import ControlPlane.Store.SerialRules
import Mathlib.Data.List.Find

namespace ControlPlane.Persistence

open Transaction

-- the branches on a stripped agent name are not evaluated
attribute [local irreducible] strip

section Persist

variable (py : PyRuntime) (sha256 : String → String) (result : GovernanceEvaluateResponse)
  (request : GovernanceEvaluateRequest) (draws : Draws) (ttlSeconds : ℤ) (clock : ℕ → Instant)

/-! ## The rows of an evaluation -/

/-- The evaluation asks for an approval of its own. -/
def AsksApproval : Prop :=
  result.finalVerdict = .approvalRequired ∧ result.approvalId.getD "" = ""

instance : Decidable (AsksApproval result) := inferInstanceAs (Decidable (_ ∧ _))

/-- The decision of an evaluation. -/
def decisionRow (digests : String × String) : DecisionRow :=
  (newDecision py sha256 result request draws.requestId digests).row draws.decisionId (clock 0)

/-- The approval that an evaluation asks for, pending, and its audit row. -/
def approvalRows : List Row :=
  if AsksApproval result then
    [.approval (newApproval draws.decisionId ttlSeconds draws.approvalId (clock 1)),
      .auditMeta {
        eventId := draws.createdEvent, decisionId := draws.decisionId
        eventType := "approval_created", actor := actorOf request
        payload := [("approval_id", .str draws.approvalId),
          ("request_digest", .str (Binding.computeRequestDigest py sha256 request))]
        createdAt := Timestamp.isoformat (clock 2) }]
  else []

/-- The approval that the recorded evaluation cites. -/
def citedApproval : Option String :=
  if AsksApproval result then some draws.approvalId else result.approvalId

/-- The audit row of the decision. -/
def recordedRow : AuditMetaRow where
  eventId := draws.recordedEvent
  decisionId := draws.decisionId
  eventType := "decision_recorded"
  actor := actorOf request
  payload := recordedPayload result.finalVerdict draws.requestId (citedApproval result draws)
    (Binding.computeRequestDigest py sha256 request)
  createdAt := Timestamp.isoformat (clock 3)

/-- All rows of an evaluation, in the order of their insertion. -/
def evaluationRows (digests : String × String) : List Row :=
  .decision (decisionRow py sha256 result request draws clock digests)
    :: approvalRows py sha256 result request draws ttlSeconds clock
    ++ [.auditMeta (recordedRow py sha256 result request draws clock)]

variable {py sha256 result request draws ttlSeconds clock}

/-! ## What a successful body has inserted -/

variable {fails : ℕ → Option PyError} {σ σ' : Session Row}

theorem run_requestApproval_ok {approvalId : Option String}
    (h : (requestApproval py sha256 result request draws ttlSeconds clock).run schema fails σ
      = (.ok approvalId, σ')) :
    approvalId = citedApproval result draws ∧
      σ'.current = σ.current ++ approvalRows py sha256 result request draws ttlSeconds clock := by
  unfold requestApproval at h
  unfold citedApproval approvalRows
  by_cases hasks : AsksApproval result
  · have hif : result.finalVerdict = .approvalRequired ∧ result.approvalId.getD "" = "" := hasks
    rw [if_pos hif] at h
    rw [if_pos hasks, if_pos hasks]
    obtain ⟨id, σ₁, hcreate, h⟩ := Prog.run_bind_eq_ok.mp h
    obtain ⟨_, σ₂, hinsert, hid⟩ := Prog.run_bind_eq_ok.mp hcreate
    cases hid
    obtain ⟨event, σ₃, happend, hret⟩ := Prog.run_bind_eq_ok.mp h
    cases hret
    obtain ⟨_, σ₄, hinsert', hevent⟩ := Prog.run_bind_eq_ok.mp happend
    cases hevent
    refine ⟨rfl, ?_⟩
    rw [(run_insert_ok hinsert').2.2, (run_insert_ok hinsert).2.2, List.append_assoc]
    rfl
  · have hif : ¬ (result.finalVerdict = .approvalRequired ∧ result.approvalId.getD "" = "") :=
      hasks
    rw [if_neg hif] at h
    rw [if_neg hasks, if_neg hasks]
    cases h
    exact ⟨rfl, (List.append_nil _).symm⟩

theorem run_recordEvaluation_ok {digests : String × String} {approvalId : Option String}
    (h : (recordEvaluation py sha256 result request draws ttlSeconds digests clock).run schema fails
      σ = (.ok approvalId, σ')) :
    approvalId = citedApproval result draws ∧
      RowKey.decision draws.decisionId ∉ σ.current.map Row.key ∧
      σ'.current = σ.current
        ++ evaluationRows py sha256 result request draws ttlSeconds clock digests := by
  obtain ⟨id, σ₁, hcreate, h⟩ := Prog.run_bind_eq_ok.mp h
  obtain ⟨_, σ₂, hinsert, hid⟩ := Prog.run_bind_eq_ok.mp hcreate
  cases hid
  obtain ⟨cited, σ₃, hrequest, h⟩ := Prog.run_bind_eq_ok.mp h
  obtain ⟨hcited, hrows⟩ := run_requestApproval_ok hrequest
  obtain ⟨event, σ₄, happend, hret⟩ := Prog.run_bind_eq_ok.mp h
  cases hret
  obtain ⟨_, σ₅, hinsert', hevent⟩ := Prog.run_bind_eq_ok.mp happend
  cases hevent
  obtain ⟨hadmits, -, hdecision⟩ := run_insert_ok hinsert
  refine ⟨hcited, (admits_iff.mp hadmits).1, ?_⟩
  rw [(run_insert_ok hinsert').2.2, hrows, hdecision, hcited]
  unfold evaluationRows
  rw [List.append_assoc, List.append_assoc]
  rfl

/-- The body leaves the commit to the transaction. -/
theorem issues_recordEvaluation (digests : String × String) :
    (recordEvaluation py sha256 result request draws ttlSeconds digests clock).Issues
      (fun s => s ≠ .commit) := by
  have hinsert : ∀ row : Row, (insert row).Issues (fun s => s ≠ .commit) :=
    fun row => issues_insert (fun h => nomatch h)
  have hrequest : (requestApproval py sha256 result request draws ttlSeconds clock).Issues
      (fun s => s ≠ .commit) := by
    unfold requestApproval
    split
    · refine Prog.issues_bind (Prog.issues_bind (hinsert _) (fun _ => trivial)) (fun _ => ?_)
      exact Prog.issues_bind (Prog.issues_bind (hinsert _) (fun _ => trivial)) (fun _ => trivial)
    · trivial
  refine Prog.issues_bind (Prog.issues_bind (hinsert _) (fun _ => trivial)) (fun decisionId => ?_)
  refine Prog.issues_bind hrequest (fun approvalId => ?_)
  exact Prog.issues_bind (Prog.issues_bind (hinsert _) (fun _ => trivial)) (fun _ => trivial)

/-- A response after it is recorded. -/
def Recorded (result : GovernanceEvaluateResponse) (draws : Draws)
    (recorded : GovernanceEvaluateResponse) : Prop :=
  recorded.decisionId = some draws.decisionId ∧
    recorded.approvalId = citedApproval result draws ∧
    recorded.finalVerdict = result.finalVerdict

variable (py sha256 result request draws ttlSeconds clock) in
/-- The rows of the evaluation have been added behind others, for a new decision. -/
def AddedTo (rows rows' : List Row) : Prop :=
  RowKey.decision draws.decisionId ∉ rows.map Row.key ∧ ∃ digests,
    rows' = rows ++ evaluationRows py sha256 result request draws ttlSeconds clock digests

variable (py sha256 result request draws ttlSeconds clock) in
/-- **Recording is all or nothing**, whichever statement fails. -/
theorem settles_persistEvaluation (rows : List Row) :
    (persistEvaluation py sha256 result request draws ttlSeconds clock).Settles schema
      (fun rows' => rows' = rows)
      (fun recorded rows' => Recorded result draws recorded ∧
        AddedTo py sha256 result request draws ttlSeconds clock rows rows')
      (fun rows' => rows' = rows ∨
        AddedTo py sha256 result request draws ttlSeconds clock rows rows') := by
  have hpinned : (pinnedDigests py sha256 result request).Issues Stmt.Reading := by
    unfold pinnedDigests
    dsimp only
    split
    · exact issues_currentDigests
    · trivial
  unfold persistEvaluation
  refine Prog.settles_bind ((Prog.settles_of_reading hpinned).mono (fun _ h => h) (fun _ _ h => h)
    (fun _ h => Or.inl h)) (fun digests => ?_)
  refine Prog.settles_bind (R := fun approvalId rows' => approvalId = citedApproval result draws ∧
    AddedTo py sha256 result request draws ttlSeconds clock rows rows')
    ((settles_transaction (Prog.meets_of_issues (issues_recordEvaluation digests) ?_)).mono
      (fun _ h => h) (fun _ _ h => h) ?_) (fun approvalId => ?_)
  · intro fails σ approvalId σ' hrows hbody
    obtain ⟨hcited, hfresh, hadded⟩ := run_recordEvaluation_ok hbody
    rw [hrows] at hfresh hadded
    exact ⟨hcited, hfresh, digests, hadded⟩
  · rintro rows' (hsame | ⟨_, -, hadded⟩)
    · exact Or.inl hsame
    · exact Or.inr hadded
  · exact Prog.settles_ok (fun _ h => ⟨⟨rfl, h.1, rfl⟩, h.2⟩)

end Persist

/-! ## No approval without its decision -/

/-- Every approval belongs to a decision that asks for approval. -/
def Attached (rows : List Row) : Prop :=
  ∀ a ∈ approvals rows, ∃ d, findDecision rows a.decisionId = some d ∧
    d.finalVerdict = .approvalRequired

section Attached

variable {rows : List Row}

theorem findDecision_append (rows' : List Row) (decisionId : String) :
    findDecision (rows ++ rows') decisionId
      = (findDecision rows decisionId).or (findDecision rows' decisionId) := by
  unfold findDecision
  rw [decisions_append, List.find?_append]

theorem findDecision_eq_none {decisionId : String}
    (h : RowKey.decision decisionId ∉ rows.map Row.key) : findDecision rows decisionId = none := by
  unfold findDecision
  rw [List.find?_eq_none]
  intro d hd hid
  have hkey : (Row.decision d).key = RowKey.decision decisionId :=
    congrArg RowKey.decision (of_decide_eq_true hid)
  exact h (hkey ▸ List.mem_map_of_mem ((mem_decisions rows).mp hd))

/-- New rows do not detach an approval. -/
theorem Attached.append {rows' : List Row} (h : Attached rows)
    (hnew : ∀ a ∈ approvals rows', findDecision rows a.decisionId = none ∧
      ∃ d, findDecision rows' a.decisionId = some d ∧ d.finalVerdict = .approvalRequired) :
    Attached (rows ++ rows') := by
  intro a ha
  rw [approvals_append, List.mem_append] at ha
  rw [findDecision_append]
  rcases ha with ha | ha
  · obtain ⟨d, hfind, hverdict⟩ := h a ha
    exact ⟨d, by rw [hfind]; rfl, hverdict⟩
  · obtain ⟨hnone, d, hfind, hverdict⟩ := hnew a ha
    exact ⟨d, by rw [hnone, hfind]; rfl, hverdict⟩

/-- The rows of an evaluation bring the decision of their approval. -/
theorem Attached.evaluation {py : PyRuntime} {sha256 : String → String}
    {result : GovernanceEvaluateResponse} {request : GovernanceEvaluateRequest} {draws : Draws}
    {ttlSeconds : ℤ} {clock : ℕ → Instant} (h : Attached rows)
    (hfresh : RowKey.decision draws.decisionId ∉ rows.map Row.key) (digests : String × String) :
    Attached (rows ++ evaluationRows py sha256 result request draws ttlSeconds clock digests) := by
  refine h.append (fun a ha => ?_)
  have hown : ∀ tail, findDecision
      (.decision (decisionRow py sha256 result request draws clock digests) :: tail)
        draws.decisionId = some (decisionRow py sha256 result request draws clock digests) := by
    intro tail
    unfold findDecision
    rw [decisions_cons]
    exact List.find?_cons_of_pos (decide_eq_true rfl)
  unfold evaluationRows approvalRows at ha
  by_cases hasks : AsksApproval result
  · rw [if_pos hasks] at ha
    have hid : a.decisionId = draws.decisionId := by
      rw [List.mem_singleton.mp ha]
      rfl
    rw [hid]
    exact ⟨findDecision_eq_none hfresh, _, hown _, hasks.1⟩
  · rw [if_neg hasks] at ha
    exact absurd ha List.not_mem_nil

/-- An update of approvals that keeps their decisions does not detach any. -/
theorem Attached.update {guard : ApprovalRow → Bool} {set : ApprovalRow → ApprovalRow}
    (h : Attached rows) (hset : ∀ a, (set a).decisionId = a.decisionId) :
    Attached ((updateApprovals guard set).apply rows) := by
  intro a ha
  rw [approvals_update, List.mem_map] at ha
  obtain ⟨b, hb, rfl⟩ := ha
  have hid : (updatedApproval guard set b).decisionId = b.decisionId := by
    unfold updatedApproval
    split
    · exact hset b
    · rfl
  unfold findDecision
  rw [hid, decisions_update]
  exact h b hb

theorem Attached.insert {row : Row} (h : Attached rows) (hrow : row.approval? = none) :
    Attached (rows ++ [row]) := by
  refine h.append (fun a ha => ?_)
  rw [approvals_cons, hrow] at ha
  exact absurd ha List.not_mem_nil

theorem apply_delete {c : Change Row} (hset : ∀ r, c.set r = none) :
    c.apply rows = rows.filter (fun r => !c.guard r) := by
  unfold Change.apply
  induction rows with
  | nil => rfl
  | cons row rows ih =>
    rw [List.filterMap_cons, List.filter_cons, ih]
    cases hguard : c.guard row with
    | true =>
      rw [if_pos rfl, hset]
      rfl
    | false => rfl

/-- A deletion that takes the approvals of a decision with it does not detach any. -/
theorem Attached.delete {c : Change Row} (hset : ∀ r, c.set r = none)
    (hcascade : ∀ a d, c.guard (.decision d) = true → d.decisionId = a.decisionId →
      c.guard (.approval a) = true) (h : Attached rows) : Attached (c.apply rows) := by
  rw [apply_delete hset]
  intro a ha
  rw [mem_approvals, List.mem_filter] at ha
  obtain ⟨hmem, hkept⟩ := ha
  obtain ⟨d, hfind, hverdict⟩ := h a ((mem_approvals rows).mpr hmem)
  refine ⟨d, ?_, hverdict⟩
  -- every decision with the id of an approval that stays has stayed
  have hstays : ∀ b : DecisionRow, b.decisionId = a.decisionId → c.guard (.decision b) = false := by
    intro b hb
    by_contra hguard
    rw [Bool.not_eq_false] at hguard
    rw [hcascade a b hguard hb] at hkept
    exact absurd hkept (by decide)
  have hfilter : findDecision (rows.filter (fun r => !c.guard r)) a.decisionId
      = findDecision rows a.decisionId := by
    unfold findDecision decisions
    rw [List.find?_filterMap, List.find?_filter, List.find?_filterMap]
    congr 1
    refine List.find?_congr (fun row _ => ?_)
    cases row with
    | decision b =>
      by_cases hb : b.decisionId = a.decisionId
      · simp [hstays b hb]
      · simp [hb]
    | _ => simp
  rw [hfilter, hfind]

end Attached

/-! ## The calls -/

/-- A call that records an evaluation or touches approvals, with the ids it draws and the
readings of its clock. -/
inductive RecordCall where
  | persistEvaluation (result : GovernanceEvaluateResponse) (request : GovernanceEvaluateRequest)
      (draws : Draws) (ttlSeconds : ℤ) (clock : ℕ → Instant)
  | resolveApproval (approvalId : String) (status : ApprovalStatus) (reviewer comment : String)
      (tenantId : Option String) (forbidSelfApproval : Bool) (clock : ℕ → Instant)
  | consumeApproval (approvalId : String) (now : Instant)
  | approvalGrantsAllow (approvalId : String) (request : GovernanceEvaluateRequest)
      (policyDigest consumedEvent : String) (clock : ℕ → Instant)
  | getApproval (approvalId : String) (tenantId : Option String) (clock : ℕ → Instant)
  | listApprovals (status : String) (limit offset : ℤ) (tenantId : Option String) (now : Instant)
  | countApprovals (status : String) (now : Instant)
  | expireStaleApprovals (now : Instant)
  | purgeRetained (retentionDays : ℤ) (dryRun : Bool) (limit : ℤ) (clock : ℕ → Instant)

namespace RecordCall

variable (py : PyRuntime) (sha256 : String → String) (fails : ℕ → Option PyError)
  (rows : List Row)

/-- The rows that a call leaves, when it runs alone. -/
def after : RecordCall → List Row
  | persistEvaluation result request draws ttlSeconds clock =>
    (outcome (ControlPlane.persistEvaluation py sha256 result request draws ttlSeconds clock)
      fails rows).2
  | resolveApproval approvalId status reviewer comment tenantId forbidSelfApproval clock =>
    (outcome (ControlPlane.resolveApproval py approvalId status reviewer comment tenantId
      forbidSelfApproval clock) fails rows).2
  | consumeApproval approvalId now =>
    (outcome (ControlPlane.consumeApproval approvalId now false) fails rows).2
  | approvalGrantsAllow approvalId request policyDigest consumedEvent clock =>
    (outcome (ControlPlane.approvalGrantsAllow py sha256 approvalId request policyDigest
      consumedEvent clock) fails rows).2
  | getApproval approvalId tenantId clock =>
    (outcome (ControlPlane.getApproval approvalId tenantId clock) fails rows).2
  | listApprovals status limit offset tenantId now =>
    (outcome (ControlPlane.listApprovals status limit offset tenantId now) fails rows).2
  | countApprovals status now => (outcome (ControlPlane.countApprovals status now) fails rows).2
  | expireStaleApprovals now =>
    (outcome (ControlPlane.expireStaleApprovals now) fails rows).2
  | purgeRetained retentionDays dryRun limit clock =>
    (outcome (ControlPlane.purgeRetained retentionDays dryRun limit clock) fails rows).2

end RecordCall

/-- The rows after a sequence of calls, each with its own failures. -/
def afterCalls (py : PyRuntime) (sha256 : String → String)
    (calls : List (RecordCall × (ℕ → Option PyError))) (rows : List Row) : List Row :=
  calls.foldl (fun rows call => call.1.after py sha256 call.2 rows) rows

section Runs

variable {py : PyRuntime} {sha256 : String → String}

/-- A call whose statements keep the approvals attached keeps them so. -/
theorem attached_outcome {α : Type} {p : StoreM α}
    (h : p.Issues (Prog.Preserves schema Attached)) (fails : ℕ → Option PyError) {rows : List Row}
    (hrows : Attached rows) : Attached (outcome p fails rows).2 :=
  (h.keeps.run fails (σ := .ofRows rows) hrows hrows).2.1

/-- **One call** keeps every approval attached. -/
theorem Attached.after {rows : List Row} (h : Attached rows) (call : RecordCall)
    (fails : ℕ → Option PyError) : Attached (call.after py sha256 fails rows) := by
  have hexpire : ∀ approvalId now,
      Prog.Preserves schema Attached (.change (expireChange approvalId now)) :=
    fun _ _ _ hrows => hrows.update (fun _ => rfl)
  have hstale : ∀ now, Prog.Preserves schema Attached (.change (expireStaleChange now)) :=
    fun _ _ hrows => hrows.update (fun _ => rfl)
  have hconsume : ∀ approvalId now,
      Prog.Preserves schema Attached (.change (consumeChange approvalId now)) :=
    fun _ _ _ hrows => hrows.update (fun _ => rfl)
  have haudit : ∀ m : AuditMetaRow, Prog.Preserves schema Attached (.insert (.auditMeta m)) :=
    fun _ _ hrows _ => hrows.insert rfl
  cases call with
  | persistEvaluation result request draws ttlSeconds clock =>
    have hsettles : (ControlPlane.persistEvaluation py sha256 result request draws ttlSeconds
        clock).Settles schema (fun rows' => rows' = rows) (fun _ => Attached) Attached := by
      refine (settles_persistEvaluation py sha256 result request draws ttlSeconds clock rows).mono
        (fun _ h => h) ?_ ?_
      · rintro _ _ ⟨-, hfresh, digests, rfl⟩
        exact h.evaluation hfresh digests
      · rintro _ (rfl | ⟨hfresh, digests, rfl⟩)
        · exact h
        · exact h.evaluation hfresh digests
    exact settled_outcome hsettles fails rfl
  | resolveApproval approvalId status reviewer comment tenantId forbidSelfApproval clock =>
    exact attached_outcome (issues_resolveApproval (hexpire _)
      (fun _ _ _ hrows => hrows.update (fun _ => rfl))) fails h
  | consumeApproval approvalId now =>
    exact attached_outcome (issues_consumeApproval (hconsume _ _)) fails h
  | approvalGrantsAllow approvalId request policyDigest consumedEvent clock =>
    exact attached_outcome (issues_approvalGrantsAllow (hexpire _) (hconsume _)
      (fun m _ => haudit m)) fails h
  | getApproval approvalId tenantId clock =>
    exact attached_outcome (issues_getApproval (hexpire _)) fails h
  | listApprovals status limit offset tenantId now =>
    exact attached_outcome (issues_listApprovals (hstale _)) fails h
  | countApprovals status now =>
    exact attached_outcome (issues_countApprovals (hstale _)) fails h
  | expireStaleApprovals now =>
    exact attached_outcome (issues_expireStaleApprovals (hstale _)) fails h
  | purgeRetained retentionDays dryRun limit clock =>
    refine attached_outcome (issues_purgeRetained (hstale _) ?_ ?_ ?_) fails h
    · exact fun ids rows hrows => hrows.delete (fun _ => rfl) (fun _ _ hguard _ => nomatch hguard)
    · exact fun ids rows hrows => hrows.delete (fun _ => rfl) (fun _ _ hguard _ => nomatch hguard)
    · refine fun ids rows hrows => hrows.delete (fun _ => rfl) (fun a d hguard hid => ?_)
      have hmem : d.decisionId ∈ ids := of_decide_eq_true hguard
      exact decide_eq_true (hid ▸ hmem)

/-- **Every run** keeps every approval attached. -/
theorem Attached.afterCalls {rows : List Row} (h : Attached rows)
    (calls : List (RecordCall × (ℕ → Option PyError))) :
    Attached (Persistence.afterCalls py sha256 calls rows) := by
  induction calls generalizing rows with
  | nil => exact h
  | cons call calls ih => exact ih (h.after call.1 call.2)

/-- **Recording is all or nothing, and no approval is without its decision.**  Whichever
statement or commit of `persist_evaluation` fails, the store has all rows of the evaluation
afterwards or none, and all when it returns; and after any sequence of calls, each cut short
anywhere, every approval belongs to a decision that asks for approval. -/
theorem persistEvaluation_atomic (py : PyRuntime) (sha256 : String → String) :
    (∀ (result : GovernanceEvaluateResponse) (request : GovernanceEvaluateRequest) (draws : Draws)
      (ttlSeconds : ℤ) (clock : ℕ → Instant) (rows : List Row) (fails : ℕ → Option PyError),
      let recorded := outcome
        (persistEvaluation py sha256 result request draws ttlSeconds clock) fails rows
      (recorded.1.isOk = false ∧ recorded.2 = rows) ∨
        ∃ digests, recorded.2
          = rows ++ evaluationRows py sha256 result request draws ttlSeconds clock digests) ∧
    (∀ (calls : List (RecordCall × (ℕ → Option PyError))) (rows : List Row),
      approvals rows = [] →
      ∀ a ∈ approvals (Persistence.afterCalls py sha256 calls rows), ∃ d,
        findDecision (Persistence.afterCalls py sha256 calls rows) a.decisionId = some d ∧
          d.finalVerdict = .approvalRequired) := by
  refine ⟨?_, ?_⟩
  · intro result request draws ttlSeconds clock rows fails
    dsimp only
    obtain ⟨hok, herror⟩ := outcome_of_settles
      (settles_persistEvaluation py sha256 result request draws ttlSeconds clock rows) fails rfl
    cases hres : (outcome (persistEvaluation py sha256 result request draws ttlSeconds clock) fails
      rows).1 with
    | ok recorded => exact Or.inr (hok recorded hres).2.2
    | error e =>
      rcases herror e hres with hnone | ⟨-, hall⟩
      · exact Or.inl ⟨rfl, hnone⟩
      · exact Or.inr hall
  · intro calls rows hempty
    refine Attached.afterCalls (fun a ha => ?_) calls
    rw [hempty] at ha
    exact absurd ha List.not_mem_nil

end Runs

/-! ## A short run -/

/-- A response that asks for approval. -/
def askingResponse : GovernanceEvaluateResponse where
  finalVerdict := .approvalRequired
  policyPack := "default"
  reasons := []
  flow := []
  stages := []

/-- The ids of the evaluations of the run. -/
def drawsOf (decisionId approvalId createdEvent recordedEvent : String) : Draws where
  requestId := "r"
  decisionId := decisionId
  approvalId := approvalId
  consumedEvent := "e"
  createdEvent := createdEvent
  recordedEvent := recordedEvent

/-- The first recording goes through, the second fails at its third insert, and the approval is
granted and spent. -/
def shortRun : List (RecordCall × (ℕ → Option PyError)) :=
  [(.persistEvaluation askingResponse {} (drawsOf "d1" "a1" "e1" "e2") 3600 (fun _ => 0),
      fun _ => none),
    (.persistEvaluation askingResponse {} (drawsOf "d2" "a2" "e3" "e4") 3600 (fun _ => 0),
      fun i => if i = 6 then some storeUnavailable else none),
    (.resolveApproval "a1" .approved "bob" "" none true (fun _ => 1), fun _ => none),
    (.consumeApproval "a1" 2, fun _ => none)]

/-- One approval is left, the one of the recorded decision. -/
theorem persistEvaluation_atomic_run :
    (approvals (afterCalls .ascii (fun _ => "sha256:r") shortRun [])).map
        (fun a => (a.approvalId, a.status)) = [("a1", .consumed)] ∧
      ∀ a ∈ approvals (afterCalls .ascii (fun _ => "sha256:r") shortRun []), ∃ d,
        findDecision (afterCalls .ascii (fun _ => "sha256:r") shortRun []) a.decisionId = some d ∧
          d.finalVerdict = .approvalRequired :=
  ⟨by decide +kernel,
    (persistEvaluation_atomic .ascii (fun _ => "sha256:r")).2 shortRun [] rfl⟩

end ControlPlane.Persistence

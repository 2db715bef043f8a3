/-
# When an approval is redeemed

Whether `approval_grants_allow` spends an approval is decided by what it finds in the
store (`Redeemable`).  A redemption that goes through issues a fixed number of statements
and becomes durable with one of them; a redemption that does not go through leaves the
approval unspent, whatever fails on the way.
-/
import ControlPlane.GovernanceRouter
import ControlPlane.Store.SerialRules

namespace ControlPlane

open Transaction

-- the branches on a stripped agent name are not evaluated
attribute [local irreducible] strip

section Redemption

variable (py : PyRuntime) (sha256 : String → String)

/-! ## What a redemption depends on -/

/-- The active contracts that apply to a request, and the digests that result. -/
def digestsIn (rows : List Row) (request : GovernanceEvaluateRequest) : String × String :=
  let agentName := strip request.agent
  let tenant := strip (orElse request.tenantId request.team)
  capabilityDigests py sha256
    (if agentName = "" then none
      else (selectContracts (agentFilter agentName tenant) 1 0 rows).head?)
    (selectContracts (toolFilter tenant) 500 0 rows)

/-- The approval `a` of the decision `d` can be redeemed for a request. -/
structure Redeemable (rows : List Row) (approvalId : String)
    (request : GovernanceEvaluateRequest) (policyDigest : String) (a : ApprovalRow)
    (d : DecisionRow) : Prop where
  approval : findApproval rows approvalId = some a
  isOpen : a.isOpen = true
  decision : findDecision rows a.decisionId = some d
  bound : bindsRequest py sha256 request policyDigest d = true
  pinned : bindsCapabilities (digestsIn py sha256 rows request) d = true

/-- The rows after a redemption: the approval is consumed, and an audit row says so. -/
def redeemedRows (rows : List Row) (approvalId decisionId : String)
    (request : GovernanceEvaluateRequest) (consumedEvent : String) (clock : ℕ → Instant) :
    List Row :=
  (consumeChange approvalId (Timestamp.isoformat (clock 2))).apply rows ++ [.auditMeta {
    eventId := consumedEvent, decisionId := decisionId, eventType := "approval_consumed"
    actor := actorOf request
    payload := [("approval_id", .str approvalId),
      ("request_digest", .str (Binding.computeRequestDigest py sha256 request))]
    createdAt := Timestamp.isoformat (clock 3) }]

/-! ## A redemption that goes through -/

section Executes

variable {py sha256} {rows : List Row} {approvalId : String} {a : ApprovalRow} {d : DecisionRow}

theorem executes_getApproval (clock : ℕ → Instant) (h : findApproval rows approvalId = some a)
    (hs : a.status ≠ .pending) :
    (getApproval approvalId none clock).Executes schema rows 4 (fun _ => rows) (some a) := by
  refine executes_session (Prog.executes_bind_const (n := 1) (m := 1) (a := ()) ?_ ?_
    (fun _ => rfl))
  · refine Prog.executes_bind_const (n := 1) (m := 0) executes_fetchAll ?_ (fun _ => rfl)
    rw [h]
    simp only [hs, ne_eq, not_false_eq_true, true_or, if_true]
    exact Prog.executes_done ()
  · refine Prog.executes_bind_const (n := 1) (m := 0) executes_fetchAll ?_ (fun _ => rfl)
    rw [h]
    exact Prog.executes_done (some a)

theorem executes_getDecision {decisionId : String} (h : findDecision rows decisionId = some d) :
    (getDecision decisionId none).Executes schema rows 3 (fun _ => rows) (some d.record) := by
  refine Prog.executes_bind_const (n := 3) (m := 0) (executes_session executes_fetchAll) ?_
    (fun _ => rfl)
  rw [h]
  exact Prog.executes_done (some d.record)

theorem executes_listCapabilityContracts (f : ContractFilter) (limit offset : ℤ) :
    (listCapabilityContracts f limit offset).Executes schema rows 4 (fun _ => rows)
      { items := selectContracts f (max 1 (min limit 500)).toNat (max 0 offset).toNat rows
        total := ((capabilities rows).filter f.admits).length
        limit := (max 1 (min limit 500)).toNat
        offset := (max 0 offset).toNat } := by
  refine executes_session ?_
  refine Prog.executes_bind_const (n := 1) (m := 1) executes_fetchAll ?_ (fun _ => rfl)
  exact Prog.executes_map executes_fetchAll _

/-- The number of statements of `resolve_execution_capability_digests`. -/
def digestStatements (request : GovernanceEvaluateRequest) : ℕ :=
  if strip request.agent = "" then 4 else 8

theorem executes_currentDigests (request : GovernanceEvaluateRequest) :
    (currentDigests py sha256 request).Executes schema rows (digestStatements request)
      (fun _ => rows) (digestsIn py sha256 rows request) := by
  have htools : (getActiveTools (strip (orElse request.tenantId request.team))).Executes schema
      rows 4 (fun _ => rows)
      (selectContracts (toolFilter (strip (orElse request.tenantId request.team))) 500 0 rows) :=
    Prog.executes_map (executes_listCapabilityContracts _ _ _) _
  unfold digestStatements digestsIn
  dsimp only
  by_cases hagent : strip request.agent = ""
  · rw [if_pos hagent, if_pos hagent]
    refine Prog.executes_bind_const (n := 0) (m := 4) (a := none) ?_
      (Prog.executes_map htools _) (fun _ => rfl)
    rw [hagent]
    exact Prog.executes_done none
  · rw [if_neg hagent, if_neg hagent]
    refine Prog.executes_bind_const (n := 4) (m := 4) ?_ (Prog.executes_map htools _)
      (fun _ => rfl)
    unfold findAgentContract
    rw [if_neg hagent]
    exact Prog.executes_map (executes_listCapabilityContracts _ _ _) _

/-- Among rows with different keys, the rows with a property that fixes the key are one. -/
theorem countP_eq_one {p : Row → Bool} (row : Row) (hkeys : (rows.map Row.key).Nodup)
    (hmem : row ∈ rows) (hp : p row = true) (hfix : ∀ r, p r = true → r.key = row.key) :
    rows.countP p = 1 := by
  induction rows with
  | nil => exact absurd hmem List.not_mem_nil
  | cons r rows ih =>
    rw [List.map_cons, List.nodup_cons] at hkeys
    rcases List.mem_cons.mp hmem with rfl | hmem
    · have hrest : rows.countP p = 0 := by
        rw [List.countP_eq_zero]
        intro r' hr' hpr'
        exact hkeys.1 (hfix r' hpr' ▸ List.mem_map_of_mem hr')
      rw [List.countP_cons_of_pos hp, hrest]
    · have hr : ¬ p r = true := by
        intro hpr
        exact hkeys.1 (hfix r hpr ▸ List.mem_map_of_mem hmem)
      rw [List.countP_cons_of_neg hr, ih hkeys.2 hmem]

theorem ApprovalRow.isOpen_iff :
    a.isOpen = true ↔ a.status = .approved ∧ (a.usedAt = none ∨ a.usedAt = some "") := by
  unfold ApprovalRow.isOpen
  rw [decide_eq_true_eq]
  refine and_congr_right' ?_
  cases a.usedAt <;> simp

theorem countP_consume (hkeys : (rows.map Row.key).Nodup) (h : findApproval rows approvalId = some a)
    (ho : a.isOpen = true) (now : String) :
    rows.countP (consumeChange approvalId now).guard = 1 := by
  obtain ⟨hid, hmem⟩ := findApproval_some h
  refine countP_eq_one (.approval a) hkeys ((mem_approvals rows).mp hmem) ?_ ?_
  · exact decide_eq_true ⟨hid, ApprovalRow.isOpen_iff.mp ho⟩
  · intro r hr
    cases r with
    | approval b => exact congrArg RowKey.approval ((of_decide_eq_true hr).1.trans hid.symm)
    | _ => cases hr

theorem writes_appendAuditMeta {decisionId eventType actor eventId : String}
    {payload : List (String × Json.Value)} {now : Instant}
    (hfresh : .auditMeta eventId ∉ rows.map Row.key)
    (hd : ∃ d ∈ decisions rows, d.decisionId = decisionId) :
    (appendAuditMeta decisionId eventType actor payload eventId now true).Writes schema rows 1
      (rows ++ [.auditMeta {
        eventId := eventId, decisionId := decisionId, eventType := eventType, actor := actor,
        payload := payload, createdAt := Timestamp.isoformat now }]) eventId :=
  Prog.writes_map (writes_insertRow (admits_iff.mpr ⟨hfresh, (refersToDecision_iff rfl).mpr hd⟩))
    (fun _ => eventId)

theorem executes_consumeAndAudit (clock : ℕ → Instant) (request : GovernanceEvaluateRequest)
    (consumedEvent : String) (hkeys : (rows.map Row.key).Nodup)
    (hfresh : .auditMeta consumedEvent ∉ rows.map Row.key)
    (h : findApproval rows approvalId = some a) (ho : a.isOpen = true)
    (hd : findDecision rows a.decisionId = some d) :
    (consumeAndAudit approvalId d.decisionId (actorOf request)
      (Binding.computeRequestDigest py sha256 request) consumedEvent
      (fun i => clock (i + 2))).Executes schema rows 5
      (fun i => if i ≤ 2 then rows
        else redeemedRows py sha256 rows approvalId d.decisionId request consumedEvent clock)
      true := by
  have hconsume : (consumeApproval approvalId (clock 2) true).Writes schema rows 1
      ((consumeChange approvalId (Timestamp.isoformat (clock 2))).apply rows) true := by
    have hwrite : (execute (consumeChange approvalId (Timestamp.isoformat (clock 2)))).Writes
        schema rows 1 ((consumeChange approvalId (Timestamp.isoformat (clock 2))).apply rows)
        (rows.countP (consumeChange approvalId (Timestamp.isoformat (clock 2))).guard) :=
      writes_execute _
    rw [countP_consume hkeys h ho] at hwrite
    exact Prog.writes_map hwrite (fun count => decide (count = 1))
  refine executes_transaction (n := 2) (Prog.writes_bind (n := 1) (m := 1) hconsume ?_)
  rw [if_neg (not_not.mpr rfl)]
  refine Prog.writes_map (writes_appendAuditMeta ?_ ⟨d, ?_, rfl⟩) (fun _ => true)
  · rw [keys_consume]
    exact hfresh
  · rw [decisions_consume]
    exact (findDecision_some hd).2

/-- **A redemption that goes through** becomes durable with one of its statements. -/
theorem executes_approvalGrantsAllow {request : GovernanceEvaluateRequest} {policyDigest : String}
    (clock : ℕ → Instant) {consumedEvent : String} (hkeys : (rows.map Row.key).Nodup)
    (hfresh : .auditMeta consumedEvent ∉ rows.map Row.key)
    (h : Redeemable py sha256 rows approvalId request policyDigest a d) :
    (approvalGrantsAllow py sha256 approvalId request policyDigest consumedEvent clock).Executes
      schema rows (12 + digestStatements request)
      (fun i => if i ≤ 9 + digestStatements request then rows
        else redeemedRows py sha256 rows approvalId d.decisionId request consumedEvent clock)
      true := by
  have hpending : a.status ≠ .pending := by
    rw [(ApprovalRow.isOpen_iff.mp h.isOpen).1]
    decide
  have hspend : (spendApproval py sha256 approvalId request d.record consumedEvent clock).Executes
      schema rows (digestStatements request + 5)
      (fun i => if i ≤ digestStatements request + 2 then rows
        else redeemedRows py sha256 rows approvalId d.decisionId request consumedEvent clock)
      true := by
    refine Prog.executes_bind_read (executes_currentDigests request) ?_
    have hpinned : bindsCapabilities (digestsIn py sha256 rows request) d.record = true := h.pinned
    rw [if_neg (not_not.mpr hpinned)]
    exact executes_consumeAndAudit (d := d) clock request consumedEvent hkeys hfresh h.approval
      h.isOpen h.decision
  have hdecision : (redeemApproval py sha256 approvalId request policyDigest (some a) consumedEvent
      clock).Executes schema rows (3 + (digestStatements request + 5))
      (fun i => if i ≤ 3 + (digestStatements request + 2) then rows
        else redeemedRows py sha256 rows approvalId d.decisionId request consumedEvent clock)
      true := by
    unfold redeemApproval
    dsimp only
    rw [if_neg (not_not.mpr h.isOpen)]
    refine Prog.executes_bind_read (executes_getDecision h.decision) ?_
    unfold redeemDecision
    dsimp only
    have hbound : bindsRequest py sha256 request policyDigest d.record = true := h.bound
    rw [if_neg (not_not.mpr hbound)]
    exact hspend
  have hall := Prog.executes_bind_read (executes_getApproval clock h.approval hpending)
    (f := fun approval => redeemApproval py sha256 approvalId request policyDigest approval
      consumedEvent clock) hdecision
  have hn : 4 + (3 + (digestStatements request + 5)) = 12 + digestStatements request := by omega
  have hk : 4 + (3 + (digestStatements request + 2)) = 9 + digestStatements request := by omega
  rw [hn, hk] at hall
  exact hall

end Executes

/-! ## A redemption that does not go through -/

/-- What a redemption can leave of the rows `rows₀` while it has not spent the approval: the
approval may have expired, and nothing else has changed. -/
structure Untouched (rows₀ : List Row) (approvalId : String) (rows : List Row) : Prop where
  keys : rows.map Row.key = rows₀.map Row.key
  decisions : decisions rows = decisions rows₀
  capabilities : capabilities rows = capabilities rows₀
  auditMetas : auditMetas rows = auditMetas rows₀
  approval : findApproval rows approvalId = findApproval rows₀ approvalId ∨
    ∃ a a', findApproval rows₀ approvalId = some a ∧ a.status = .pending ∧
      findApproval rows approvalId = some a' ∧ a'.status = .expired

section Keeps

variable {py sha256} {rows₀ rows : List Row} {approvalId : String}

theorem Untouched.refl : Untouched rows₀ approvalId rows₀ := ⟨rfl, rfl, rfl, rfl, Or.inl rfl⟩

theorem Untouched.expire (h : Untouched rows₀ approvalId rows) (now : String) :
    Untouched rows₀ approvalId ((expireChange approvalId now).apply rows) where
  keys := by rw [keys_expire, h.keys]
  decisions := by rw [decisions_expire, h.decisions]
  capabilities := by rw [capabilities_expire, h.capabilities]
  auditMetas := by rw [auditMetas_expire, h.auditMetas]
  approval := by
    have hfind : findApproval ((expireChange approvalId now).apply rows) approvalId
        = (findApproval rows approvalId).map (updatedApproval
          (fun r => r.approvalId = approvalId ∧ r.status = .pending)
          (fun r => { r with status := .expired, resolvedAt := some now })) := by
      have hid : ∀ a : ApprovalRow, ({ a with
          status := .expired, resolvedAt := some now } : ApprovalRow).approvalId = a.approvalId :=
        fun _ => rfl
      exact findApproval_update hid approvalId
    rcases h.approval with hsame | ⟨a, a', ha, hs, ha', hs'⟩
    · cases hfound : findApproval rows₀ approvalId with
      | none =>
        left
        rw [hfind, hsame, hfound]
        rfl
      | some a =>
        rw [hfind, hsame, hfound]
        by_cases hp : a.status = .pending
        · right
          have hid := (findApproval_some hfound).1
          refine ⟨a, _, rfl, hp, rfl, ?_⟩
          unfold updatedApproval
          rw [if_pos (decide_eq_true ⟨hid, hp⟩)]
        · left
          show some (updatedApproval _ _ a) = some a
          unfold updatedApproval
          rw [if_neg (fun h => hp (of_decide_eq_true h).2)]
    · right
      refine ⟨a, a', ha, hs, ?_, hs'⟩
      rw [hfind, ha']
      show some (updatedApproval _ _ a') = some a'
      unfold updatedApproval
      rw [if_neg (fun h => ?_)]
      have hp := (of_decide_eq_true h).2
      rw [hs'] at hp
      cases hp

section Lapses

variable {I : List Row → Prop}
  (hexpire : ∀ rows now, I rows → I ((expireChange approvalId now).apply rows))

include hexpire

theorem keeps_expireIfNeeded (clock : ℕ → Instant) :
    (expireIfNeeded approvalId clock).Keeps schema I (fun _ => True) := by
  refine Prog.keeps_bind keeps_fetchAll (fun rows hrows => ?_) (fun _ _ => trivial)
  split
  · trivial
  · split
    · trivial
    · rename_i row _ _
      have hdone : (Prog.done (isExpired row.expiresAt (clock 0)) : StoreM Bool).Keeps schema
          I (fun _ => True) := trivial
      refine Prog.keeps_bind hdone (fun expired _ => ?_) (fun _ _ => trivial)
      split
      · refine Prog.keeps_bind (keeps_execute (fun rows h => hexpire rows _ h)) (fun _ _ => ?_)
          (fun _ _ => trivial)
        exact keeps_commit
      · trivial

/-- What `get_approval` reads is the approval as it was, or one that is not open. -/
theorem keeps_getApproval (huntouched : ∀ rows, I rows → Untouched rows₀ approvalId rows)
    (clock : ℕ → Instant) :
    (getApproval approvalId none clock).Keeps schema I
      (fun r => ∀ x, r = .ok x → x = findApproval rows₀ approvalId ∨
        ∀ a ∈ x, a.isOpen = false) := by
  refine keeps_session ?_ (fun e x hx => nomatch hx)
  refine Prog.keeps_bind (keeps_expireIfNeeded hexpire clock) (fun _ _ => ?_)
    (fun e _ x hx => nomatch hx)
  refine Prog.keeps_bind keeps_fetchAll (fun rows hrows => ?_) (fun e _ x hx => nomatch hx)
  have hread : findApproval rows approvalId = findApproval rows₀ approvalId ∨
      ∀ a ∈ findApproval rows approvalId, a.isOpen = false := by
    rcases (huntouched rows (hrows rows rfl)).approval with hsame | ⟨a, a', -, -, ha', hs'⟩
    · exact Or.inl hsame
    · right
      intro b hb
      rw [ha', Option.mem_some_iff] at hb
      rw [← hb, ← Bool.not_eq_true, ApprovalRow.isOpen_iff, hs']
      exact fun h => nomatch h.1
  cases hfind : findApproval rows approvalId with
  | none =>
    intro x hx
    cases hx
    rw [← hfind]
    exact hread
  | some a =>
    intro x hx
    cases hx
    rw [← hfind]
    exact hread

end Lapses

theorem keeps_getDecision (decisionId : String) :
    (getDecision decisionId none).Keeps schema (Untouched rows₀ approvalId)
      (fun r => ∀ x, r = .ok x →
        x = (findDecision rows₀ decisionId).map DecisionRow.record) := by
  refine Prog.keeps_bind (keeps_session keeps_fetchAll (fun e x hx => nomatch hx))
    (fun rows hrows => ?_) (fun e _ x hx => nomatch hx)
  have hfind : findDecision rows decisionId = findDecision rows₀ decisionId := by
    unfold findDecision
    rw [(hrows rows rfl).decisions]
  rw [← hfind]
  cases findDecision rows decisionId with
  | none =>
    intro x hx
    cases hx
    rfl
  | some d =>
    intro x hx
    cases hx
    rfl

section Digests

variable {I : List Row → Prop} (hI : ∀ rows, I rows → capabilities rows = capabilities rows₀)

include hI

theorem keeps_listCapabilityContracts (f : ContractFilter) (limit offset : ℤ) :
    (listCapabilityContracts f limit offset).Keeps schema I
      (fun r => ∀ page, r = .ok page →
        page.items = selectContracts f (max 1 (min limit 500)).toNat (max 0 offset).toNat rows₀) := by
  refine keeps_session ?_ (fun e x hx => nomatch hx)
  refine Prog.keeps_bind keeps_fetchAll (fun counted _ => ?_) (fun e _ x hx => nomatch hx)
  refine Prog.keeps_bind keeps_fetchAll (fun rows hrows => ?_) (fun e _ x hx => nomatch hx)
  intro page hpage
  cases hpage
  unfold selectContracts
  rw [hI rows (hrows rows rfl)]

/-- The digests are those of the contracts, as long as the contracts stay. -/
theorem keeps_currentDigests (request : GovernanceEvaluateRequest) :
    (currentDigests py sha256 request).Keeps schema I
      (fun r => ∀ x, r = .ok x → x = digestsIn py sha256 rows₀ request) := by
  have hcontract : (findAgentContract (strip request.agent)
      (strip (orElse request.tenantId request.team))).Keeps schema I
      (fun r => ∀ x, r = .ok x → x = if strip request.agent = "" then none
        else (selectContracts (agentFilter (strip request.agent)
          (strip (orElse request.tenantId request.team))) 1 0 rows₀).head?) := by
    unfold findAgentContract
    split
    · intro x hx
      cases hx
      rfl
    · refine Prog.keeps_bind (keeps_listCapabilityContracts hI _ _ _) (fun page hpage => ?_)
        (fun e _ x hx => nomatch hx)
      intro x hx
      cases hx
      rw [hpage page rfl]
      rfl
  refine Prog.keeps_bind hcontract (fun contract hc => ?_) (fun e _ x hx => nomatch hx)
  have htools : (getActiveTools (strip (orElse request.tenantId request.team))).Keeps schema I
      (fun r => ∀ x, r = .ok x → x = selectContracts
        (toolFilter (strip (orElse request.tenantId request.team))) 500 0 rows₀) := by
    refine Prog.keeps_bind (keeps_listCapabilityContracts hI _ _ _) (fun page hpage => ?_)
      (fun e _ x hx => nomatch hx)
    intro x hx
    cases hx
    exact hpage page rfl
  refine Prog.keeps_bind htools (fun tools ht => ?_) (fun e _ x hx => nomatch hx)
  intro x hx
  cases hx
  rw [hc contract rfl, ht tools rfl]
  rfl

end Digests

/-- **A redemption that does not go through** does not report one, and leaves the approval
unspent. -/
theorem keeps_approvalGrantsAllow {request : GovernanceEvaluateRequest} {policyDigest : String}
    {consumedEvent : String} (clock : ℕ → Instant)
    (h : ∀ a d, ¬ Redeemable py sha256 rows₀ approvalId request policyDigest a d) :
    (approvalGrantsAllow py sha256 approvalId request policyDigest consumedEvent clock).Keeps
      schema (Untouched rows₀ approvalId) (fun r => r ≠ .ok true) := by
  refine Prog.keeps_bind (keeps_getApproval (fun _ now h => h.expire now) (fun _ h => h) clock)
    (fun approval happroval => ?_) (fun e _ => fun h => nomatch h)
  unfold redeemApproval
  cases approval with
  | none => exact fun h => nomatch h
  | some a =>
    dsimp only
    split
    · exact fun h => nomatch h
    · rename_i hopen
      have ho : a.isOpen = true := not_not.mp hopen
      have ha : findApproval rows₀ approvalId = some a := by
        rcases happroval _ rfl with hsame | hclosed
        · exact hsame.symm
        · exact absurd (hclosed a rfl) (by rw [ho]; decide)
      refine Prog.keeps_bind (keeps_getDecision a.decisionId) (fun decision hdecision => ?_)
        (fun e _ => fun h => nomatch h)
      cases hd : findDecision rows₀ a.decisionId with
      | none =>
        have hnone : decision = none := by
          rw [hdecision _ rfl, hd]
          rfl
        rw [hnone]
        exact fun h => nomatch h
      | some d =>
        have hsome : decision = some d.record := by
          rw [hdecision _ rfl, hd]
          rfl
        rw [hsome]
        unfold redeemDecision
        dsimp only
        split
        · exact fun h => nomatch h
        · rename_i hbound
          refine Prog.keeps_bind (keeps_currentDigests (fun _ h => h.capabilities) request)
            (fun digests hdigests => ?_) (fun e _ => fun h => nomatch h)
          rw [hdigests _ rfl]
          split
          · exact fun h => nomatch h
          · rename_i hpinned
            exact absurd ⟨ha, ho, hd, not_not.mp hbound, not_not.mp hpinned⟩ (h a d)

end Keeps

end Redemption

end ControlPlane

/-
# An approval pays once

A redemption consumes its approval in one transaction and records the decision that it pays for
in the next.  A failure between the two commits burns the approval; a failure anywhere else
leaves both or neither, and so does every request that redeems nothing.
-/
import ControlPlane.AuditTrail
import ControlPlane.Expiry

namespace ControlPlane.ExactlyOnce

open Transaction Persistence AuditTrail
open CapabilityPinning (Consumed consumed_of_untouched)
open Function (uncurry)

-- what the endpoint computes between its statements is not evaluated
attribute [local irreducible] strip headerText runBundle enrichGovernanceRequest
  PolicyProcess.catchUp

/-! ## Consumptions and the decisions they pay for -/

/-- The approval that a recorded decision cites. -/
def citedBy (m : AuditMetaRow) : Option String :=
  if m.eventType = "decision_recorded" then
    match m.payload.lookup "approval_id" with
    | some (.str approvalId) => some approvalId
    | _ => none
  else none

/-- A durable allow decision cites the approval. -/
def PaidFor (approvalId : String) (rows : List Row) : Prop :=
  ∃ d ∈ decisions rows, d.finalVerdict = .allow ∧
    ∃ m ∈ auditMetas rows, m.decisionId = d.decisionId ∧ citedBy m = some approvalId

/-- The approval is consumed exactly if a durable allow decision cites it. -/
def PaidOnce (approvalId : String) (rows : List Row) : Prop :=
  Consumed approvalId rows ↔ PaidFor approvalId rows

/-- No two rows have one key, and the decision of an audit row is there. -/
structure Ordered (rows : List Row) : Prop where
  keys : (rows.map Row.key).Nodup
  recorded : ∀ m ∈ auditMetas rows, ∃ d ∈ decisions rows, d.decisionId = m.decisionId

/-- What holds between two requests. -/
def Balanced (rows : List Row) : Prop := Ordered rows ∧ ∀ approvalId, PaidOnce approvalId rows

section Rows

variable {rows rows' : List Row} {approvalId : String}

theorem paidFor_congr (hdecisions : decisions rows' = decisions rows)
    (hmetas : auditMetas rows' = auditMetas rows) :
    PaidFor approvalId rows' ↔ PaidFor approvalId rows := by
  unfold PaidFor
  rw [hdecisions, hmetas]

theorem Ordered.congr (h : Ordered rows) (hkeys : rows'.map Row.key = rows.map Row.key)
    (hdecisions : decisions rows' = decisions rows)
    (hmetas : auditMetas rows' = auditMetas rows) : Ordered rows' where
  keys := by
    rw [hkeys]
    exact h.keys
  recorded := by
    rw [hdecisions, hmetas]
    exact h.recorded

/-! ### Updates of approvals -/

/-- An update that neither consumes an approval nor touches a consumed one. -/
theorem consumed_update {guard : ApprovalRow → Bool} {set : ApprovalRow → ApprovalRow}
    (hid : ∀ a, (set a).approvalId = a.approvalId)
    (hguard : ∀ a, guard a = true → a.status ≠ .consumed)
    (hset : ∀ a, (set a).status ≠ .consumed) :
    Consumed approvalId ((updateApprovals guard set).apply rows) ↔ Consumed approvalId rows := by
  have hkept : ∀ a, (updatedApproval guard set a).status = .consumed ↔ a.status = .consumed := by
    intro a
    unfold updatedApproval
    split
    · rename_i ha
      exact ⟨fun h => absurd h (hset a), fun h => absurd h (hguard a ha)⟩
    · rfl
  unfold Consumed
  rw [findApproval_update hid]
  cases hfind : findApproval rows approvalId with
  | none => simp
  | some a => simp [hkept]

theorem Balanced.update {guard : ApprovalRow → Bool} {set : ApprovalRow → ApprovalRow}
    (h : Balanced rows) (hid : ∀ a, (set a).approvalId = a.approvalId)
    (hguard : ∀ a, guard a = true → a.status ≠ .consumed)
    (hset : ∀ a, (set a).status ≠ .consumed) :
    Balanced ((updateApprovals guard set).apply rows) := by
  refine ⟨h.1.congr (keys_update hid) decisions_update auditMetas_update, fun approvalId => ?_⟩
  unfold PaidOnce
  rw [consumed_update hid hguard hset, paidFor_congr decisions_update auditMetas_update]
  exact h.2 approvalId

/-! ### New rows -/

theorem findApproval_append (approvalId : String) :
    findApproval (rows ++ rows') approvalId
      = (findApproval rows approvalId).or (findApproval rows' approvalId) := by
  unfold findApproval
  rw [approvals_append, List.find?_append]

/-- New approvals are not consumed. -/
theorem consumed_append (hnew : ∀ a ∈ approvals rows', a.status ≠ .consumed) :
    Consumed approvalId (rows ++ rows') ↔ Consumed approvalId rows := by
  unfold Consumed
  rw [findApproval_append]
  cases hfind : findApproval rows approvalId with
  | some a => simp
  | none =>
    refine ⟨?_, ?_⟩
    · rintro ⟨a, ha, hs⟩
      exact absurd hs (hnew a (findApproval_some ha).2)
    · rintro ⟨a, ha, -⟩
      cases ha

theorem Ordered.insert {row : Row} (h : Ordered rows) (hadmits : schema.admits rows row = true) :
    Ordered (rows ++ [row]) where
  keys := preserves_keys row rows h.keys hadmits
  recorded := by
    intro m hm
    rw [auditMetas_append, List.mem_append] at hm
    rw [decisions_append]
    rcases hm with hm | hm
    · obtain ⟨d, hd, hid⟩ := h.recorded m hm
      exact ⟨d, List.mem_append_left _ hd, hid⟩
    · have hrow : row = .auditMeta m :=
        (List.mem_singleton.mp ((mem_auditMetas [row]).mp hm)).symm
      rw [hrow] at hadmits
      obtain ⟨d, hd, hid⟩ := (refersToDecision_iff rfl).mp (admits_iff.mp hadmits).2
      exact ⟨d, List.mem_append_left _ hd, hid⟩

/-- An audit row that cites no approval pays for none. -/
theorem paidFor_insert {m : AuditMetaRow} (hm : citedBy m = none) :
    PaidFor approvalId (rows ++ [.auditMeta m]) ↔ PaidFor approvalId rows := by
  have hmetas : auditMetas (rows ++ [.auditMeta m]) = auditMetas rows ++ [m] := by
    rw [auditMetas_append]
    rfl
  have hdecisions : decisions (rows ++ [.auditMeta m]) = decisions rows := by
    rw [decisions_append]
    exact List.append_nil _
  unfold PaidFor
  rw [hmetas, hdecisions]
  constructor
  · rintro ⟨d, hd, hallow, m', hm', hid, hcites⟩
    rcases List.mem_append.mp hm' with hm' | hm'
    · exact ⟨d, hd, hallow, m', hm', hid, hcites⟩
    · rw [List.mem_singleton.mp hm', hm] at hcites
      cases hcites
  · rintro ⟨d, hd, hallow, m', hm', hid, hcites⟩
    exact ⟨d, hd, hallow, m', List.mem_append_left _ hm', hid, hcites⟩

theorem consumed_insert (m : AuditMetaRow) :
    Consumed approvalId (rows ++ [.auditMeta m]) ↔ Consumed approvalId rows :=
  consumed_append (fun _ ha => absurd ha List.not_mem_nil)

theorem Balanced.insert {m : AuditMetaRow} (h : Balanced rows) (hm : citedBy m = none)
    (hadmits : schema.admits rows (.auditMeta m) = true) :
    Balanced (rows ++ [.auditMeta m]) := by
  refine ⟨h.1.insert hadmits, fun approvalId => ?_⟩
  unfold PaidOnce
  rw [consumed_insert, paidFor_insert hm]
  exact h.2 approvalId

end Rows

/-! ## Recording -/

section Recording

variable {py : PyRuntime} {sha256 : String → String} {result : GovernanceEvaluateResponse}
  {request : GovernanceEvaluateRequest} {draws : Draws} {ttlSeconds : ℤ} {clock : ℕ → Instant}
  {rows : List Row} {digests : String × String} {approvalId : String}

theorem decisions_evaluationRows :
    decisions (evaluationRows py sha256 result request draws ttlSeconds clock digests)
      = [decisionRow py sha256 result request draws clock digests] := by
  unfold evaluationRows approvalRows
  split <;> rfl

theorem citedBy_recordedRow :
    citedBy (recordedRow py sha256 result request draws clock) = citedApproval result draws := by
  show (match (recordedPayload result.finalVerdict draws.requestId (citedApproval result draws)
    (Binding.computeRequestDigest py sha256 request)).lookup "approval_id" with
    | some (.str approvalId) => some approvalId
    | _ => none) = _
  unfold recordedPayload
  simp only [List.lookup_cons]
  cases citedApproval result draws <;> rfl

/-- The audit rows of an evaluation: the one of its decision cites, the other does not. -/
theorem citedBy_evaluationRows {m : AuditMetaRow} (hm : m ∈ auditMetas
    (evaluationRows py sha256 result request draws ttlSeconds clock digests))
    (hcites : citedBy m = some approvalId) : citedApproval result draws = some approvalId := by
  unfold evaluationRows approvalRows at hm
  by_cases hasks : AsksApproval result
  · rw [if_pos hasks] at hm
    have hm' : m ∈ [_, recordedRow py sha256 result request draws clock] := hm
    rcases List.mem_cons.mp hm' with rfl | hm'
    · cases hcites
    · rw [List.mem_singleton.mp hm', citedBy_recordedRow] at hcites
      exact hcites
  · rw [if_neg hasks] at hm
    have hm' : m ∈ [recordedRow py sha256 result request draws clock] := hm
    rw [List.mem_singleton.mp hm', citedBy_recordedRow] at hcites
    exact hcites

theorem consumed_evaluationRows :
    Consumed approvalId
        (rows ++ evaluationRows py sha256 result request draws ttlSeconds clock digests) ↔
      Consumed approvalId rows := by
  refine consumed_append (fun a ha => ?_)
  rw [approvals_evaluationRows] at ha
  split at ha
  · rw [List.mem_singleton.mp ha]
    show ApprovalStatus.pending ≠ .consumed
    decide
  · cases ha

/-- **What a recorded evaluation pays for**: an allow decision pays for the approval that its
response cites. -/
theorem paidFor_evaluationRows (h : Ordered rows)
    (hfresh : RowKey.decision draws.decisionId ∉ rows.map Row.key) :
    PaidFor approvalId
        (rows ++ evaluationRows py sha256 result request draws ttlSeconds clock digests) ↔
      PaidFor approvalId rows ∨
        result.finalVerdict = .allow ∧ result.approvalId = some approvalId := by
  have hnew : ∀ d ∈ decisions rows, d.decisionId ≠ draws.decisionId := by
    intro d hd hid
    have hkey : (Row.decision d).key = .decision draws.decisionId := congrArg RowKey.decision hid
    exact hfresh (hkey ▸ List.mem_map_of_mem ((mem_decisions rows).mp hd))
  -- an allowed request asks for no approval, so it cites the one of the response
  have hcited : result.finalVerdict = .allow → citedApproval result draws = result.approvalId := by
    intro hallow
    unfold citedApproval
    rw [if_neg]
    rintro ⟨hasks, -⟩
    rw [hallow] at hasks
    cases hasks
  unfold PaidFor
  rw [decisions_append, auditMetas_append, decisions_evaluationRows]
  constructor
  · rintro ⟨d, hd, hallow, m, hm, hid, hcites⟩
    rcases List.mem_append.mp hd with hd | hd
    · rcases List.mem_append.mp hm with hm | hm
      · exact Or.inl ⟨d, hd, hallow, m, hm, hid, hcites⟩
      · exact absurd (hid.symm.trans (silent_evaluationRows hm).1) (hnew d hd)
    · rw [List.mem_singleton.mp hd] at hallow hid
      rcases List.mem_append.mp hm with hm | hm
      · obtain ⟨d', hd', hid'⟩ := h.recorded m hm
        exact absurd (hid'.trans hid) (hnew d' hd')
      · refine Or.inr ⟨hallow, ?_⟩
        rw [← hcited hallow]
        exact citedBy_evaluationRows hm hcites
  · rintro (⟨d, hd, hallow, m, hm, hid, hcites⟩ | ⟨hallow, hid⟩)
    · exact ⟨d, List.mem_append_left _ hd, hallow, m, List.mem_append_left _ hm, hid, hcites⟩
    · refine ⟨_, List.mem_append_right _ (List.mem_singleton_self _), hallow,
        recordedRow py sha256 result request draws clock, List.mem_append_right _ ?_, rfl, ?_⟩
      · rw [mem_auditMetas]
        exact List.mem_append_right _ (List.mem_singleton_self _)
      · rw [citedBy_recordedRow, hcited hallow, hid]

end Recording

/-! ## A request that redeems -/

section Granted

/-- What follows a commit without writing. -/
theorem executes_bind_written {α β : Type} {p : StoreM α} {f : α → StoreM β} {rows rows' : List Row}
    {k n m : ℕ} {a : α} {b : β} (hk : k < n)
    (hp : p.Executes schema rows n (fun i => if i ≤ k then rows else rows') a)
    (hf : (f a).Executes schema rows' m (fun _ => rows') b) :
    (p >>= f).Executes schema rows (n + m) (fun i => if i ≤ k then rows else rows') b := by
  have hf' : (f a).Executes schema (if n ≤ k then rows else rows') m (fun _ => rows') b := by
    rw [if_neg (by omega)]
    exact hf
  refine (Prog.executes_bind hp hf').congr (fun i _ => ?_)
  split_ifs <;> first | rfl | omega

/-- Two commits, one after the other. -/
theorem executes_bind_commits {α β : Type} {p : StoreM α} {f : α → StoreM β}
    {rows rows₁ rows₂ : List Row} {k₁ k₂ n m : ℕ} {a : α} {b : β} (hk : k₁ < n)
    (hp : p.Executes schema rows n (fun i => if i ≤ k₁ then rows else rows₁) a)
    (hf : (f a).Executes schema rows₁ m (fun i => if i ≤ k₂ then rows₁ else rows₂) b) :
    (p >>= f).Executes schema rows (n + m)
      (fun i => if i ≤ k₁ then rows else if i ≤ n + k₂ then rows₁ else rows₂) b := by
  have hf' : (f a).Executes schema (if n ≤ k₁ then rows else rows₁) m
      (fun i => if i ≤ k₂ then rows₁ else rows₂) b := by
    rw [if_neg (by omega)]
    exact hf
  refine (Prog.executes_bind hp hf').congr (fun i _ => ?_)
  split_ifs <;> first | rfl | omega

variable {server : Server} {process : PolicyProcess} {headers : Headers}
  {merged : GovernanceEvaluateRequest} {draws : Draws} {clock : ℕ → Instant} {rows : List Row}
  {approvalId : String} {a : ApprovalRow} {d : DecisionRow}

/-- The rows after the consumption of a granted request. -/
def spentRows (server : Server) (merged : GovernanceEvaluateRequest) (approvalId : String)
    (d : DecisionRow) (draws : Draws) (clock : ℕ → Instant) (rows : List Row) : List Row :=
  redeemedRows server.py server.sha256 rows approvalId d.decisionId merged draws.consumedEvent
    clock

/-- What the `uuid4`s of a request give: new ids, and two different ones. -/
structure Fresh (draws : Draws) (rows : List Row) : Prop where
  consumed : .auditMeta draws.consumedEvent ∉ rows.map Row.key
  decision : .decision draws.decisionId ∉ rows.map Row.key
  recorded : .auditMeta draws.recordedEvent ∉ rows.map Row.key
  distinct : draws.recordedEvent ≠ draws.consumedEvent

/-- The rows after the decision of a granted request. -/
def paidRows (server : Server) (process : PolicyProcess) (merged : GovernanceEvaluateRequest)
    (approvalId : String) (draws : Draws) (clock : ℕ → Instant) (rows : List Row) : List Row :=
  rows ++ evaluationRows server.py server.sha256
    (Server.grantedResponse merged approvalId process.bundle) merged draws
    server.approvalTtlSeconds clock (digestsIn server.py server.sha256 rows merged)

/-- The response to a granted request. -/
def paidResponse (process : PolicyProcess) (merged : GovernanceEvaluateRequest)
    (approvalId : String) (draws : Draws) (digests : String × String) :
    GovernanceEvaluateResponse :=
  { Server.grantedResponse merged approvalId process.bundle with
    decisionId := some draws.decisionId
    approvalId := some approvalId
    agentCapabilityDigest := orNone digests.1
    toolsCapabilityDigest := orNone digests.2 }

/-- The decision of a granted request is recorded in one transaction, with the statement after
its two inserts. -/
theorem executes_persistGranted (hdecision : .decision draws.decisionId ∉ rows.map Row.key)
    (hrecorded : .auditMeta draws.recordedEvent ∉ rows.map Row.key) :
    (persistEvaluation server.py server.sha256
      (Server.grantedResponse merged approvalId process.bundle) merged draws
      server.approvalTtlSeconds clock).Executes schema rows (digestStatements merged + 5)
      (fun i => if i ≤ digestStatements merged + 2 then rows
        else paidRows server process merged approvalId draws clock rows)
      (paidResponse process merged approvalId draws
        (digestsIn server.py server.sha256 rows merged)) := by
  -- the digests are read, then both rows are written in one transaction
  have hpinned : (pinnedDigests server.py server.sha256
      (Server.grantedResponse merged approvalId process.bundle) merged).Executes schema rows
      (digestStatements merged) (fun _ => rows)
      (digestsIn server.py server.sha256 rows merged) := executes_currentDigests merged
  have hwrites : ∀ digests, (recordEvaluation server.py server.sha256
      (Server.grantedResponse merged approvalId process.bundle) merged draws
      server.approvalTtlSeconds digests clock).Writes schema rows 2
      (rows ++ evaluationRows server.py server.sha256
        (Server.grantedResponse merged approvalId process.bundle) merged draws
        server.approvalTtlSeconds clock digests) (some approvalId) := by
    intro digests
    have hinsert : (createDecision (newDecision server.py server.sha256
        (Server.grantedResponse merged approvalId process.bundle) merged draws.requestId digests)
        draws.decisionId (clock 0) true).Writes schema rows 1
        (rows ++ [.decision (decisionRow server.py server.sha256
          (Server.grantedResponse merged approvalId process.bundle) merged draws clock digests)])
        draws.decisionId :=
      Prog.writes_map (writes_insertRow (admits_of_no_ref hdecision rfl)) (fun _ => _)
    have hadded : RowKey.auditMeta draws.recordedEvent ∉ (rows ++ [Row.decision (decisionRow
        server.py server.sha256 (Server.grantedResponse merged approvalId process.bundle) merged
        draws clock digests)]).map Row.key := by
      rw [List.map_append, List.mem_append]
      rintro (hold | hnew)
      · exact hrecorded hold
      · cases List.mem_singleton.mp hnew
    have happend : (appendAuditMeta draws.decisionId "decision_recorded" (actorOf merged)
        (recordedPayload .allow draws.requestId (some approvalId)
          (Binding.computeRequestDigest server.py server.sha256 merged)) draws.recordedEvent
        (clock 3) true).Writes schema _ 1 _ draws.recordedEvent :=
      writes_appendAuditMeta hadded ⟨decisionRow server.py server.sha256
        (Server.grantedResponse merged approvalId process.bundle) merged draws clock digests,
        (mem_decisions _).mpr (List.mem_append_right _ (List.mem_singleton_self _)), rfl⟩
    refine Prog.writes_bind (n := 1) (m := 1) hinsert ?_
    refine Prog.writes_bind (n := 0) (m := 1) (Prog.writes_done (some approvalId)) ?_
    rw [List.append_assoc] at happend
    exact Prog.writes_map happend (fun _ => some approvalId)
  refine Prog.executes_bind_read hpinned (m := 5) ?_
  exact Prog.executes_map (executes_transaction (hwrites _)) (fun cited =>
    { Server.grantedResponse merged approvalId process.bundle with
      decisionId := some draws.decisionId
      approvalId := cited
      agentCapabilityDigest := orNone (digestsIn server.py server.sha256 rows merged).1
      toolsCapabilityDigest := orNone (digestsIn server.py server.sha256 rows merged).2 })

theorem keys_spentRows (d : DecisionRow) (clock : ℕ → Instant) :
    (spentRows server merged approvalId d draws clock rows).map Row.key
      = rows.map Row.key ++ [.auditMeta draws.consumedEvent] := by
  unfold spentRows redeemedRows
  rw [List.map_append, keys_consume]
  rfl

theorem decision_spentRows (d : DecisionRow) (clock : ℕ → Instant) (hdraws : Fresh draws rows) :
    .decision draws.decisionId ∉
      (spentRows server merged approvalId d draws clock rows).map Row.key := by
  rw [keys_spentRows, List.mem_append, List.mem_singleton]
  rintro (hold | hnew)
  · exact hdraws.decision hold
  · cases hnew

theorem recorded_spentRows (d : DecisionRow) (clock : ℕ → Instant) (hdraws : Fresh draws rows) :
    .auditMeta draws.recordedEvent ∉
      (spentRows server merged approvalId d draws clock rows).map Row.key := by
  rw [keys_spentRows, List.mem_append, List.mem_singleton]
  rintro (hold | hnew)
  · exact hdraws.recorded hold
  · exact hdraws.distinct (RowKey.auditMeta.inj hnew)

/-- **The two commits of a granted request.**  The consumption is durable after the statement
number `9 + digestStatements merged`, the decision after `15 + 2 * digestStatements merged`. -/
theorem executes_evaluateMerged (hid : headerText headers "x-ai-approval-id" = approvalId)
    (hne : approvalId ≠ "") (hkeys : (rows.map Row.key).Nodup) (hdraws : Fresh draws rows)
    (h : Redeemable server.py server.sha256 rows approvalId merged process.bundle.contentDigest
      a d) :
    (server.evaluateMerged process headers merged draws clock).Executes schema rows
      (19 + 2 * digestStatements merged)
      (fun i => if i ≤ 9 + digestStatements merged then rows
        else if i ≤ 15 + 2 * digestStatements merged then
          spentRows server merged approvalId d draws clock rows
        else paidRows server process merged approvalId draws (fun i => clock (i + 4))
          (spentRows server merged approvalId d draws clock rows))
      (paidResponse process merged approvalId draws (digestsIn server.py server.sha256
        (spentRows server merged approvalId d draws clock rows) merged)) := by
  have hredeem : (server.redeem process merged approvalId draws clock).Executes schema rows
      (12 + digestStatements merged)
      (fun i => if i ≤ 9 + digestStatements merged then rows
        else spentRows server merged approvalId d draws clock rows) true := by
    unfold Server.redeem
    rw [if_neg hne]
    exact executes_approvalGrantsAllow clock hkeys hdraws.consumed h
  have hpersist : (persistEvaluation server.py server.sha256
      (Server.grantedResponse merged approvalId process.bundle) merged draws
      server.approvalTtlSeconds (fun i => clock (i + 4))).Executes schema
      (spentRows server merged approvalId d draws clock rows) (digestStatements merged + 5) _ _ :=
    executes_persistGranted (decision_spentRows d clock hdraws)
      (recorded_spentRows d clock hdraws)
  have hallow : (server.allowRedeemed process merged approvalId draws
      (fun i => clock (i + 4))).Executes schema
      (spentRows server merged approvalId d draws clock rows)
      (1 + (digestStatements merged + 5 + 1)) _ _ :=
    Prog.executes_bind_read executes_pythonStep (executes_bind_written (by omega) hpersist
      (Prog.executes_map executes_pythonStep (fun _ => _)))
  have hevaluate := executes_bind_commits (by omega) hredeem
    (f := fun granted => if granted then do
        let result ← server.allowRedeemed process merged approvalId draws (fun i => clock (i + 4))
        return (result, true)
      else do
        let result ← server.evaluateFresh process headers merged draws (fun i => clock (i + 4))
        return (result, false)) (Prog.executes_map hallow (fun result => (result, true)))
  unfold Server.evaluateMerged Server.evaluateOrRedeem
  rw [hid]
  have hall : (Prog.handle _ _ >>= Server.auditFresh).Executes schema rows _ _ _ :=
    Prog.executes_bind (m := 0) (Prog.executes_handle_throw Server.storeException hevaluate)
      (Prog.executes_done _)
  -- the statements of the two commits, counted from the beginning of the request
  have hlength : 12 + digestStatements merged + (1 + (digestStatements merged + 5 + 1)) + 0
      = 19 + 2 * digestStatements merged := by omega
  rw [hlength] at hall
  refine hall.congr (fun i hi => ?_)
  split_ifs <;> first | rfl | omega

/-! ### The accounts on the way -/

theorem ordered_spentRows (h : Ordered rows) (hdraws : Fresh draws rows)
    (hd : findDecision rows a.decisionId = some d) :
    Ordered (spentRows server merged approvalId d draws clock rows) := by
  have hconsume : Ordered ((consumeChange approvalId (Timestamp.isoformat (clock 2))).apply rows) :=
    h.congr (keys_consume _ _) (decisions_consume _ _) auditMetas_update
  refine hconsume.insert (admits_iff.mpr ⟨?_, (refersToDecision_iff rfl).mpr ⟨d, ?_, rfl⟩⟩)
  · rw [keys_consume]
    exact hdraws.consumed
  · rw [decisions_consume]
    exact (findDecision_some hd).2

/-- A consumption pays for nothing yet. -/
theorem paidFor_spentRows (id : String) :
    PaidFor id (spentRows server merged approvalId d draws clock rows) ↔ PaidFor id rows := by
  unfold spentRows redeemedRows
  rw [paidFor_insert rfl]
  exact paidFor_congr (decisions_consume _ _) auditMetas_update

/-- A consumption is about one approval. -/
theorem consumed_spentRows_other {id : String} (hother : id ≠ approvalId) :
    Consumed id (spentRows server merged approvalId d draws clock rows) ↔ Consumed id rows := by
  unfold spentRows redeemedRows
  rw [consumed_insert]
  unfold Consumed
  have hid : ∀ (now : String) (a : ApprovalRow), ({ a with
      status := .consumed, usedAt := some now } : ApprovalRow).approvalId = a.approvalId :=
    fun _ _ => rfl
  rw [show findApproval ((consumeChange approvalId (Timestamp.isoformat (clock 2))).apply rows) id
    = _ from findApproval_update (hid _) id]
  cases hfind : findApproval rows id with
  | none => simp
  | some b =>
    have hsame : updatedApproval (fun r => r.approvalId = approvalId ∧ r.status = .approved ∧
        (r.usedAt = none ∨ r.usedAt = some "")) (fun r => { r with
          status := .consumed, usedAt := some (Timestamp.isoformat (clock 2)) }) b = b := by
      unfold updatedApproval
      rw [if_neg]
      intro hguard
      exact hother ((findApproval_some hfind).1.symm.trans (of_decide_eq_true hguard).1)
    rw [Option.map_some, hsame]

variable (h : Balanced rows) (hdraws : Fresh draws rows)
  (hr : Redeemable server.py server.sha256 rows approvalId merged process.bundle.contentDigest a d)

include h hr

/-- The approval is burnt. -/
theorem not_paidOnce_spentRows :
    ¬ PaidOnce approvalId (spentRows server merged approvalId d draws clock rows) := by
  intro hpaid
  have hbefore : ¬ Consumed approvalId rows := by
    rintro ⟨b, hb, hs⟩
    rw [hr.approval, Option.some.injEq] at hb
    rw [← hb, (ApprovalRow.isOpen_iff.mp hr.isOpen).1] at hs
    cases hs
  have hafter := hpaid.mp (Expiry.consumed_redeemedRows hr d.decisionId)
  rw [paidFor_spentRows] at hafter
  exact hbefore ((h.2 approvalId).mpr hafter)

include hdraws

/-- The approval is paid out. -/
theorem balanced_paidRows :
    Balanced (paidRows server process merged approvalId draws (fun i => clock (i + 4))
      (spentRows server merged approvalId d draws clock rows)) := by
  have hordered : Ordered (spentRows server merged approvalId d draws clock rows) :=
    ordered_spentRows h.1 hdraws hr.decision
  refine ⟨?_, fun id => ?_⟩
  · -- the decision is inserted first, and then its audit row
    unfold paidRows evaluationRows approvalRows
    rw [if_neg (fun hasks => by cases hasks.1), ← List.append_assoc]
    have hdecision : Ordered (spentRows server merged approvalId d draws clock rows ++
        [.decision (decisionRow server.py server.sha256
          (Server.grantedResponse merged approvalId process.bundle) merged draws
          (fun i => clock (i + 4)) (digestsIn server.py server.sha256
            (spentRows server merged approvalId d draws clock rows) merged))]) :=
      hordered.insert (admits_of_no_ref (decision_spentRows d clock hdraws) rfl)
    refine hdecision.insert (admits_iff.mpr ⟨?_, (refersToDecision_iff rfl).mpr ?_⟩)
    · rw [List.map_append, List.mem_append]
      rintro (hold | hnew)
      · exact recorded_spentRows d clock hdraws hold
      · cases List.mem_singleton.mp hnew
    · exact ⟨_, (mem_decisions _).mpr (List.mem_append_right _ (List.mem_singleton_self _)), rfl⟩
  · unfold PaidOnce paidRows
    rw [consumed_evaluationRows,
      paidFor_evaluationRows hordered (decision_spentRows d clock hdraws), paidFor_spentRows]
    by_cases hid : id = approvalId
    · rw [hid]
      refine ⟨fun _ => Or.inr ⟨rfl, rfl⟩, fun _ => ?_⟩
      exact Expiry.consumed_redeemedRows hr d.decisionId
    · have hbefore : Consumed id rows ↔ PaidFor id rows := h.2 id
      rw [consumed_spentRows_other hid, hbefore]
      refine ⟨Or.inl, fun hpaid => hpaid.resolve_right ?_⟩
      rintro ⟨-, hsame⟩
      exact hid (Option.some.inj hsame).symm

end Granted

/-! ## A request that redeems nothing -/

section Refused

/-- The other approvals are as they were. -/
def OthersKept (rows₀ : List Row) (approvalId : String) (rows : List Row) : Prop :=
  ∀ id ≠ approvalId, findApproval rows id = findApproval rows₀ id

variable {rows₀ rows : List Row} {approvalId : String}

/-- An update of one approval keeps the others. -/
theorem OthersKept.update {guard : ApprovalRow → Bool} {set : ApprovalRow → ApprovalRow}
    (h : OthersKept rows₀ approvalId rows) (hid : ∀ a, (set a).approvalId = a.approvalId)
    (hguard : ∀ a, guard a = true → a.approvalId = approvalId) :
    OthersKept rows₀ approvalId ((updateApprovals guard set).apply rows) := by
  intro id hother
  rw [findApproval_update hid, h id hother]
  cases hfind : findApproval rows₀ id with
  | none => rfl
  | some a =>
    have hkept : updatedApproval guard set a = a := by
      unfold updatedApproval
      rw [if_neg]
      intro ha
      exact hother ((findApproval_some hfind).1.symm.trans (hguard a ha))
    rw [Option.map_some, hkept]

variable {py : PyRuntime} {sha256 : String → String} {request : GovernanceEvaluateRequest}
  {policyDigest consumedEvent : String} {clock : ℕ → Instant}

theorem keeps_others : (approvalGrantsAllow py sha256 approvalId request policyDigest consumedEvent
    clock).Keeps schema (OthersKept rows₀ approvalId) (fun _ => True) := by
  refine Prog.Issues.keeps (issues_approvalGrantsAllow ?_ ?_ ?_)
  · exact fun now rows h => h.update (fun _ => rfl) (fun a ha => (of_decide_eq_true ha).1)
  · exact fun now rows h => h.update (fun _ => rfl) (fun a ha => (of_decide_eq_true ha).1)
  · intro m _ rows h _ id hother
    rw [findApproval_append, h id hother]
    exact Option.or_none

/-- A redemption ends without changes of its own. -/
theorem settles_redemption : (approvalGrantsAllow py sha256 approvalId request policyDigest
    consumedEvent clock).Settles schema (fun _ => True) (fun _ _ => True) (fun _ => True) := by
  -- every session of a redemption ends with nothing pending
  have hsession : ∀ {α : Type} (body : StoreM α), (session body).Settles schema (fun _ => True)
      (fun _ _ => True) (fun _ => True) := fun body =>
    settles_session (fun _ _ _ => ⟨fun _ _ => ⟨trivial, trivial⟩, fun _ _ => trivial⟩)
      (fun _ _ _ => trivial)
  have hok : ∀ {α : Type} (a : α), (Prog.done (.ok a) : StoreM α).Settles schema (fun _ => True)
      (fun _ _ => True) (fun _ => True) := fun a => Prog.settles_ok (fun _ _ => trivial)
  refine Prog.settles_bind (hsession _) (fun approval => ?_)
  unfold redeemApproval
  split
  · exact hok false
  split
  · exact hok false
  refine Prog.settles_bind (R := fun _ _ => True) ?_ (fun decision => ?_)
  · refine Prog.settles_bind (hsession _) (fun read => ?_)
    split
    · exact hok none
    · split
      · exact hok none
      · exact hok _
  unfold redeemDecision
  split
  · exact hok false
  split
  · exact hok false
  refine Prog.settles_bind ((Prog.settles_of_reading issues_currentDigests).mono (fun _ h => h)
    (fun _ _ _ => trivial) (fun _ _ => trivial)) (fun digests => ?_)
  split
  · exact hok false
  · exact hsession _

/-- **A redemption that does not go through** leaves the accounts as they are. -/
theorem settles_refused (hrows : Balanced rows)
    (h : ∀ a d, ¬ Redeemable py sha256 rows approvalId request policyDigest a d) :
    (approvalGrantsAllow py sha256 approvalId request policyDigest consumedEvent clock).Settles
      schema (fun rows' => rows' = rows) (fun granted rows' => granted = false ∧ Balanced rows')
      Balanced := by
  have hbalanced : ∀ rows', Untouched rows approvalId rows' → OthersKept rows approvalId rows' →
      Balanced rows' := by
    intro rows' huntouched hothers
    refine ⟨hrows.1.congr huntouched.keys huntouched.decisions huntouched.auditMetas,
      fun id => ?_⟩
    have hconsumed : Consumed id rows' ↔ Consumed id rows := by
      by_cases hid : id = approvalId
      · rw [hid]
        refine ⟨consumed_of_untouched huntouched, ?_⟩
        rintro ⟨a, ha, hs⟩
        -- a refused approval is as it was, or has expired
        rcases huntouched.approval with hsame | ⟨b, -, hb, hpending, -⟩
        · exact ⟨a, hsame.trans ha, hs⟩
        · rw [ha, Option.some.injEq] at hb
          rw [← hb, hs] at hpending
          cases hpending
      · unfold Consumed
        rw [hothers id hid]
    unfold PaidOnce
    rw [hconsumed, paidFor_congr huntouched.decisions huntouched.auditMetas]
    exact hrows.2 id
  have hkeeps : (approvalGrantsAllow py sha256 approvalId request policyDigest consumedEvent
      clock).Keeps schema (Untouched rows approvalId) (fun r => r ≠ .ok true) :=
    keeps_approvalGrantsAllow clock h
  intro fails σ ⟨hclean, hcommitted⟩
  have hdurable : σ.committed = rows := hcommitted
  have hcurrent : σ.current = rows := hclean.trans hcommitted
  obtain ⟨hresult, huntouched, -⟩ := hkeeps.run fails (σ := σ) (by rw [hdurable]; exact .refl)
    (by rw [hcurrent]; exact .refl)
  have hothersKept : (approvalGrantsAllow py sha256 approvalId request policyDigest consumedEvent
      clock).Keeps schema (OthersKept rows approvalId) (fun _ => True) := keeps_others
  obtain ⟨-, hothers, -⟩ := hothersKept.run fails (σ := σ) (by rw [hdurable]; exact fun _ _ => rfl)
    (by rw [hcurrent]; exact fun _ _ => rfl)
  obtain ⟨hok, herror⟩ := settles_redemption fails σ ⟨hclean, trivial⟩
  refine ⟨fun granted hgranted => ⟨(hok granted hgranted).1, ?_, hbalanced _ huntouched hothers⟩,
    fun e he => ⟨(herror e he).1, hbalanced _ huntouched hothers⟩⟩
  cases granted with
  | true => exact absurd hgranted hresult
  | false => rfl

/-- A response that cites no approval pays for none. -/
theorem Balanced.record {result : GovernanceEvaluateResponse} {draws : Draws} {ttlSeconds : ℤ}
    {rows' : List Row} (h : Balanced rows) (hcites : result.approvalId = none)
    (hadded : AddedTo py sha256 result request draws ttlSeconds clock rows rows')
    (hkeys : (rows'.map Row.key).Nodup) : Balanced rows' := by
  obtain ⟨hfresh, digests, rfl⟩ := hadded
  refine ⟨⟨hkeys, ?_⟩, fun id => ?_⟩
  · intro m hm
    rw [auditMetas_append, List.mem_append] at hm
    rw [decisions_append, decisions_evaluationRows]
    rcases hm with hm | hm
    · obtain ⟨d, hd, hid⟩ := h.1.recorded m hm
      exact ⟨d, List.mem_append_left _ hd, hid⟩
    · exact ⟨_, List.mem_append_right _ (List.mem_singleton_self _),
        (silent_evaluationRows hm).1.symm⟩
  · -- the new decision cites nothing, so no account changes
    have hbefore : Consumed id rows ↔ PaidFor id rows := h.2 id
    unfold PaidOnce
    rw [consumed_evaluationRows, paidFor_evaluationRows h.1 hfresh, hbefore, hcites]
    refine ⟨Or.inl, fun hpaid => hpaid.resolve_right ?_⟩
    rintro ⟨-, hsome⟩
    cases hsome

theorem settles_record {result : GovernanceEvaluateResponse} {draws : Draws} {ttlSeconds : ℤ}
    (hcites : result.approvalId = none) :
    (persistEvaluation py sha256 result request draws ttlSeconds clock).Settles schema Balanced
      (fun _ => Balanced) Balanced := by
  refine Prog.settles_of_rows (fun rows h => ?_)
  have hissues : (persistEvaluation py sha256 result request draws ttlSeconds clock).Issues
      (Prog.Preserves schema (fun rows => (rows.map Row.key).Nodup)) :=
    issues_persistEvaluation (fun _ => preserves_keys _) (preserves_keys _)
      (fun _ _ => preserves_keys _)
  refine ((settles_persistEvaluation py sha256 result request draws ttlSeconds clock
    rows).and_keeps hissues.keeps).mono ?_ ?_ ?_
  · rintro _ rfl
    exact ⟨rfl, h.1.keys⟩
  · rintro recorded rows' ⟨⟨-, hadded⟩, hkeys⟩
    exact h.record hcites hadded hkeys
  · rintro rows' ⟨rfl | hadded, hkeys⟩
    · exact h
    · exact h.record hcites hadded hkeys

variable {server : Server} {process : PolicyProcess} {headers : Headers}
  {merged : GovernanceEvaluateRequest} {draws : Draws}

/-- **A request without a granted approval** keeps the accounts. -/
theorem settles_evaluateMerged (hrows : Balanced rows)
    (h : headerText headers "x-ai-approval-id" ≠ "" → ∀ a d, ¬ Redeemable server.py server.sha256
      rows (headerText headers "x-ai-approval-id") merged process.bundle.contentDigest a d) :
    (server.evaluateMerged process headers merged draws clock).Settles schema
      (fun rows' => rows' = rows) (fun _ => Balanced) Balanced := by
  have hredeem : (server.redeem process merged (headerText headers "x-ai-approval-id") draws
      clock).Settles schema (fun rows' => rows' = rows)
      (fun granted rows' => granted = false ∧ Balanced rows') Balanced := by
    unfold Server.redeem
    split
    · refine Prog.settles_ok (fun rows' hsame => ⟨rfl, ?_⟩)
      rw [hsame]
      exact hrows
    · rename_i hne
      exact settles_refused hrows (h hne)
  -- without a granted approval the response cites none
  have hfresh : (server.evaluateFresh process headers merged draws
      (fun i => clock (i + 4))).Settles schema Balanced (fun _ => Balanced) Balanced := by
    unfold Server.evaluateFresh
    refine Prog.settles_bind (Prog.settles_done (fun _ _ _ h => h) (fun _ _ _ h => h))
      (fun enriched => ?_)
    refine Prog.settles_bind (R := fun result rows => result.approvalId = none ∧ Balanced rows)
      ((settles_evaluateSynced (P := Balanced) process _ _).mono (fun _ h => h)
        (fun _ _ h => ⟨h.2, h.1⟩) (fun _ h => h)) (fun result => ?_)
    exact Prog.settles_of_fact settles_record
  unfold Server.evaluateMerged Server.evaluateOrRedeem
  have hraise : ∀ e : PyError, (throw (Server.storeException e) :
      StoreM (GovernanceEvaluateResponse × Bool)).Settles schema Balanced (fun _ => Balanced)
        Balanced := fun e => Prog.settles_error (fun _ h => h)
  refine Prog.settles_bind (R := fun _ => Balanced) (Prog.settles_handle ?_ hraise)
    (fun evaluated => ?_)
  · refine Prog.settles_bind hredeem (fun granted => Prog.settles_of_fact (fun hgranted => ?_))
    rw [if_neg (by rw [hgranted]; decide)]
    exact Prog.settles_bind hfresh (fun result => Prog.settles_ok (fun _ h => h))
  · unfold Server.auditFresh
    split
    · exact Prog.settles_ok (fun _ h => h)
    · exact Prog.settles_bind (settles_pythonStep (fun _ h => h))
        (fun _ => Prog.settles_ok (fun _ h => h))

end Refused

/-! ## Resolutions and expiries -/

theorem resolution_balanced {py : PyRuntime} {auth : AuthEnv} {status : ApprovalStatus}
    {eventType : String} {headers : Headers} {approvalId : String}
    {payload : ResolveApprovalRequest} {eventId : String} {clock : ℕ → Instant}
    (hevent : eventType ≠ "decision_recorded") :
    (resolveRequest py auth status eventType headers approvalId payload eventId clock).Issues
      (Prog.Preserves schema Balanced) := by
  refine issues_resolveRequest (fun now rows h => ?_) (fun hstatus reviewer now _ rows h => ?_)
    (fun m hm rows h hadmits => ?_)
  · refine h.update (fun _ => rfl) (fun a ha hs => ?_) (fun _ hs => by cases hs)
    rw [(of_decide_eq_true ha).2] at hs
    cases hs
  · refine h.update (fun _ => rfl) (fun a ha hs => ?_) (fun _ hs => ?_)
    · rw [(of_decide_eq_true ha).2] at hs
      cases hs
    · have hconsumed : status = .consumed := hs
      rw [hconsumed] at hstatus
      rcases hstatus with hs | hs <;> cases hs
  · refine h.insert ?_ hadmits
    unfold citedBy
    rw [hm, if_neg hevent]

/-! ## Runs -/

/-- A request of the approval path, with the ids it draws and the readings of its clock. -/
inductive PaymentCall where
  | governanceEvaluate (process : PolicyProcess) (headers : Headers)
      (body : GovernanceEvaluateRequest) (draws : Draws) (clock : ℕ → Instant)
  | approveRequest (headers : Headers) (approvalId : String) (payload : ResolveApprovalRequest)
      (eventId : String) (clock : ℕ → Instant)
  | rejectRequest (headers : Headers) (approvalId : String) (payload : ResolveApprovalRequest)
      (eventId : String) (clock : ℕ → Instant)
  | getApproval (approvalId : String) (tenantId : Option String) (clock : ℕ → Instant)
  | expireStaleApprovals (now : Instant)

namespace PaymentCall

variable (server : Server)

/-- The rows that a request leaves, when it runs alone. -/
def after (call : PaymentCall) (fails : ℕ → Option PyError) (rows : List Row) : List Row :=
  match call with
  | governanceEvaluate process headers body draws clock =>
    (outcome (server.governanceEvaluate process headers body draws clock) fails rows).2
  | approveRequest headers approvalId payload eventId clock =>
    (outcome (ControlPlane.approveRequest server.py server.signals.auth headers approvalId payload
      eventId clock) fails rows).2
  | rejectRequest headers approvalId payload eventId clock =>
    (outcome (ControlPlane.rejectRequest server.py server.signals.auth headers approvalId payload
      eventId clock) fails rows).2
  | getApproval approvalId tenantId clock =>
    (outcome (ControlPlane.getApproval approvalId tenantId clock) fails rows).2
  | expireStaleApprovals now =>
    (outcome (ControlPlane.expireStaleApprovals now) fails rows).2

/-- The ids that a request draws are new. -/
def DrawsUuids (rows : List Row) : PaymentCall → Prop
  | governanceEvaluate _ _ _ draws _ => Fresh draws rows
  | _ => True

/-- The request redeems an approval, and a statement or step fails after the commit of the
consumption (number `9 + digestStatements merged`) and not after the commit of the decision
(number `15 + 2 * digestStatements merged`). -/
def Loses (fails : ℕ → Option PyError) (rows : List Row) : PaymentCall → Prop
  | governanceEvaluate process headers body _ _ =>
    ∃ merged a d, server.mergedRequest headers body = .ok merged ∧
      headerText headers "x-ai-approval-id" ≠ "" ∧
      Redeemable server.py server.sha256 rows (headerText headers "x-ai-approval-id") merged
        process.bundle.contentDigest a d ∧
      Prog.Succeeds fails (10 + digestStatements merged) ∧
      ¬ Prog.Succeeds fails (16 + 2 * digestStatements merged)
  | _ => False

variable {server}

/-- A request whose statements keep the accounts. -/
theorem balanced_outcome {α : Type} {p : StoreM α} (h : p.Issues (Prog.Preserves schema Balanced))
    (fails : ℕ → Option PyError) {rows : List Row} (hrows : Balanced rows) :
    Balanced (outcome p fails rows).2 :=
  (h.keeps.run fails (σ := .ofRows rows) hrows hrows).2.1

section Evaluate

variable {process : PolicyProcess} {headers : Headers} {body merged : GovernanceEvaluateRequest}
  {draws : Draws} {clock : ℕ → Instant} {fails : ℕ → Option PyError} {rows : List Row}

/-- The endpoint once the identity is merged. -/
theorem after_governanceEvaluate (hmerged : server.mergedRequest headers body = .ok merged) :
    (governanceEvaluate process headers body draws clock).after server fails rows
      = (outcome (server.evaluateMerged process headers merged { draws with
          requestId := orElse (headers.getD "x-request-id" "") draws.requestId } clock) fails
        rows).2 := by
  show (outcome (server.governanceEvaluate process headers body draws clock) fails rows).2 = _
  unfold Server.governanceEvaluate
  rw [hmerged, Prog.bind_ok]

/-- **Where a granted request is cut short decides.**  Nothing, the consumption alone, or the
consumption with its decision is durable. -/
theorem granted_cases {a : ApprovalRow} {d : DecisionRow} (hrows : Balanced rows)
    (hdraws : Fresh draws rows) (hmerged : server.mergedRequest headers body = .ok merged)
    (hne : headerText headers "x-ai-approval-id" ≠ "")
    (hr : Redeemable server.py server.sha256 rows (headerText headers "x-ai-approval-id") merged
      process.bundle.contentDigest a d) :
    (Prog.Succeeds fails (10 + digestStatements merged) ∧
      ¬ Prog.Succeeds fails (16 + 2 * digestStatements merged) ∧
      ¬ PaidOnce (headerText headers "x-ai-approval-id")
        ((governanceEvaluate process headers body draws clock).after server fails rows)) ∨
    ((Prog.Succeeds fails (10 + digestStatements merged) →
        Prog.Succeeds fails (16 + 2 * digestStatements merged)) ∧
      Balanced ((governanceEvaluate process headers body draws clock).after server fails rows)) := by
  rw [after_governanceEvaluate hmerged]
  have hdraws' : Fresh { draws with
      requestId := orElse (headers.getD "x-request-id" "") draws.requestId } rows :=
    ⟨hdraws.consumed, hdraws.decision, hdraws.recorded, hdraws.distinct⟩
  rcases (executes_evaluateMerged rfl hne hrows.1.keys hdraws'
    hr).run_committed fails with ⟨hall, -, hc⟩ | ⟨i, hi, hfail, hfirst, -, hc⟩
  · right
    refine ⟨fun _ j hj => hall j (by omega), ?_⟩
    unfold outcome
    rw [hc, if_neg (by omega), if_neg (by omega)]
    exact balanced_paidRows hrows hdraws' hr
  · unfold outcome
    rw [hc]
    by_cases hconsumed : i ≤ 9 + digestStatements merged
    · right
      refine ⟨fun h => absurd (h i (by omega)) hfail, ?_⟩
      rw [if_pos hconsumed]
      exact hrows
    · rw [if_neg hconsumed]
      by_cases hdecided : i ≤ 15 + 2 * digestStatements merged
      · left
        refine ⟨fun j hj => hfirst j (by omega), fun h => hfail (h i (by omega)), ?_⟩
        rw [if_pos hdecided]
        exact not_paidOnce_spentRows hrows hr
      · right
        refine ⟨fun _ j hj => hfirst j (by omega), ?_⟩
        rw [if_neg hdecided]
        exact balanced_paidRows hrows hdraws' hr

end Evaluate

/-- **A request that loses nothing** keeps the accounts balanced. -/
theorem balanced_after (call : PaymentCall) (fails : ℕ → Option PyError) (rows : List Row)
    (hdraws : DrawsUuids rows call) (h : ¬ call.Loses server fails rows) (hrows : Balanced rows) :
    Balanced (call.after server fails rows) := by
  have hexpire : ∀ approvalId now,
      Prog.Preserves schema Balanced (.change (expireChange approvalId now)) := by
    intro approvalId now rows h
    refine h.update (fun _ => rfl) (fun a ha hs => ?_) (fun _ hs => by cases hs)
    rw [(of_decide_eq_true ha).2] at hs
    cases hs
  cases call with
  | governanceEvaluate process headers body draws clock =>
    cases hmerged : server.mergedRequest headers body with
    | error e =>
      show Balanced (outcome (server.governanceEvaluate process headers body draws clock) fails
        rows).2
      unfold Server.governanceEvaluate
      rw [hmerged]
      exact hrows
    | ok merged =>
      by_cases hr : headerText headers "x-ai-approval-id" ≠ "" ∧ ∃ a d, Redeemable server.py
          server.sha256 rows (headerText headers "x-ai-approval-id") merged
          process.bundle.contentDigest a d
      · obtain ⟨hne, a, d, hr⟩ := hr
        rcases granted_cases hrows hdraws hmerged hne hr with ⟨hspent, hlost, -⟩ | ⟨-, hbalanced⟩
        · exact absurd ⟨merged, a, d, hmerged, hne, hr, hspent, hlost⟩ h
        · exact hbalanced
      · rw [after_governanceEvaluate hmerged]
        exact settled_outcome (settles_evaluateMerged hrows
          (fun hne a d hr' => hr ⟨hne, a, d, hr'⟩)) fails rfl
  | approveRequest headers approvalId payload eventId clock =>
    exact balanced_outcome (resolution_balanced (by decide)) fails hrows
  | rejectRequest headers approvalId payload eventId clock =>
    exact balanced_outcome (resolution_balanced (by decide)) fails hrows
  | getApproval approvalId tenantId clock =>
    exact balanced_outcome (issues_getApproval (hexpire _)) fails hrows
  | expireStaleApprovals now =>
    refine balanced_outcome (issues_expireStaleApprovals (fun rows h => ?_)) fails hrows
    refine h.update (fun _ => rfl) (fun a ha hs => ?_) (fun _ hs => by cases hs)
    rw [(of_decide_eq_true ha).1] at hs
    cases hs

/-- **A request that loses an approval** shows it. -/
theorem not_paidOnce_of_loses (call : PaymentCall) (fails : ℕ → Option PyError) (rows : List Row)
    (hdraws : DrawsUuids rows call) (hrows : Balanced rows) (h : call.Loses server fails rows) :
    ∃ approvalId, ¬ PaidOnce approvalId (call.after server fails rows) := by
  cases call with
  | governanceEvaluate process headers body draws clock =>
    obtain ⟨merged, a, d, hmerged, hne, hr, hspent, hlost⟩ := h
    rcases granted_cases hrows hdraws hmerged hne hr with ⟨-, -, hnot⟩ | ⟨hkept, -⟩
    · exact ⟨_, hnot⟩
    · exact absurd (hkept hspent) hlost
  | _ => exact h.elim

end PaymentCall

open PaymentCall in
/-- **An approval pays exactly once, unless a failure falls between the two commits.**  In every
run of evaluations, resolutions and expiries, each on a server of its own (its signals, its quotas,
its tokens) and cut short by any failure: after every request each approval is consumed exactly if
a durable allow decision cites it, if and only if no request fails between the commit that consumes
its approval and the commit that records the decision. -/
theorem paidOnce_iff (calls : List ((Server × PaymentCall) × (ℕ → Option PyError)))
    (rows : List Row) (hrows : Balanced rows)
    (hdraws : EveryStep (uncurry after) (fun request _ rows => DrawsUuids rows request.2) calls
      rows) :
    EveryStep (uncurry after) (fun request fails rows =>
        ∀ approvalId, PaidOnce approvalId (request.2.after request.1 fails rows)) calls rows ↔
      EveryStep (uncurry after) (fun request fails rows =>
        ¬ request.2.Loses request.1 fails rows) calls rows := by
  induction calls generalizing rows with
  | nil => exact Iff.rfl
  | cons call calls ih =>
    obtain ⟨⟨server, request⟩, fails⟩ := call
    obtain ⟨hdraw, hdraws⟩ := hdraws
    constructor
    · rintro ⟨hpaid, hlater⟩
      have hkept : ¬ request.Loses server fails rows := by
        intro hloses
        obtain ⟨approvalId, hnot⟩ := not_paidOnce_of_loses request fails rows hdraw hrows hloses
        exact hnot (hpaid approvalId)
      have hbalanced := balanced_after request fails rows hdraw hkept hrows
      exact ⟨hkept, (ih _ hbalanced hdraws).mp hlater⟩
    · rintro ⟨hkept, hlater⟩
      have hbalanced := balanced_after request fails rows hdraw hkept hrows
      exact ⟨hbalanced.2, (ih _ hbalanced hdraws).mpr hlater⟩

/-! ## One request -/

/-- Nothing is consumed and nothing is allowed yet. -/
theorem balanced_of_open {rows : List Row} (h : Ordered rows)
    (happrovals : ∀ a ∈ approvals rows, a.status ≠ .consumed)
    (hdecisions : ∀ d ∈ decisions rows, d.finalVerdict ≠ .allow) : Balanced rows := by
  refine ⟨h, fun approvalId => ⟨?_, ?_⟩⟩
  · rintro ⟨a, ha, hs⟩
    exact absurd hs (happrovals a (findApproval_some ha).2)
  · rintro ⟨d, hd, hallow, -⟩
    exact absurd hallow (hdecisions d hd)

/-- The request that cites the granted approval; it may fail somewhere. -/
def citing (fails : ℕ → Option PyError) : List ((Server × PaymentCall) × (ℕ → Option PyError)) :=
  [((demoServer, .governanceEvaluate { bundle := shippedBundle }
      (Dict.ofList [("x-ai-approval-id", "a1")]) {}
      { drawsOf "d2" "a2" "e5" "e6" with consumedEvent := "e7" } (fun _ => 2)), fails)]

/-- The rows after such a request. -/
def rowsAfter (fails : ℕ → Option PyError) : List Row :=
  runCalls (uncurry PaymentCall.after) (citing fails) Expiry.grantedRows

theorem balanced_grantedRows : Balanced Expiry.grantedRows := by
  refine balanced_of_open ⟨by decide +kernel, ?_⟩ ?_ ?_
  · have h : (auditMetas Expiry.grantedRows).all (fun m => (decisions Expiry.grantedRows).any
        (fun d => d.decisionId = m.decisionId)) = true := by decide +kernel
    intro m hm
    obtain ⟨d, hd, hid⟩ := List.any_eq_true.mp (List.all_eq_true.mp h m hm)
    exact ⟨d, hd, of_decide_eq_true hid⟩
  · have h : (approvals Expiry.grantedRows).all (fun a => a.status ≠ .consumed) = true := by
      decide +kernel
    exact fun a ha => of_decide_eq_true (List.all_eq_true.mp h a ha)
  · have h : (decisions Expiry.grantedRows).all (fun d => d.finalVerdict ≠ .allow) = true := by
      decide +kernel
    exact fun d hd => of_decide_eq_true (List.all_eq_true.mp h d hd)

theorem fresh_citing : Fresh { drawsOf "d2" "a2" "e5" "e6" with consumedEvent := "e7" }
    Expiry.grantedRows :=
  ⟨by decide +kernel, by decide +kernel, by decide +kernel, by decide⟩

/-- Nothing fails: the approval is spent, and the decision that it paid for is there. -/
theorem paidOnce_iff_citing :
    ((approvals (rowsAfter (fun _ => none))).map ApprovalRow.status = [.consumed] ∧
      (decisions (rowsAfter (fun _ => none))).map DecisionRow.finalVerdict
        = [.approvalRequired, .allow]) ∧
    ∀ approvalId, PaidOnce approvalId (rowsAfter (fun _ => none)) := by
  refine ⟨by decide +kernel, ?_⟩
  refine ((paidOnce_iff (citing (fun _ => none)) Expiry.grantedRows
    balanced_grantedRows ⟨fresh_citing, trivial⟩).mpr ⟨?_, trivial⟩).1
  rintro ⟨merged, a, d, -, -, -, -, hlost⟩
  exact hlost (fun _ _ => rfl)

/-- The insertion of the decision fails: the approval is spent for nothing. -/
example :
    (approvals (rowsAfter (fun i => if i = 21 then some storeUnavailable else none))).map
        ApprovalRow.status = [.consumed] ∧
      (decisions (rowsAfter (fun i => if i = 21 then some storeUnavailable else none))).map
        DecisionRow.finalVerdict = [.approvalRequired] := by
  decide +kernel

end ControlPlane.ExactlyOnce

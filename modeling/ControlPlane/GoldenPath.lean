/-
# The golden path of an approval

A request that needs an approval comes again once the approval is granted.  The decision of the
approval stores the digest of the request after its enrichment, and what comes again is compared
before its enrichment: the two agree exactly if enrichment leaves the cost, the sensitivity and the
write permission of the request as they are.
-/
import ControlPlane.ApprovalOrigin
import ControlPlane.BindingRoundTrip
import ControlPlane.CapabilityPinning
import ControlPlane.ExactlyOnce

namespace ControlPlane.GoldenPath

open Transaction Remediation ApprovalOrigin CapabilityPinning Persistence
open Function (uncurry)

-- what the endpoints compute between their statements is not evaluated
attribute [local irreducible] strip runBundle PolicyProcess.catchUp

/-! ## The digest and enrichment -/

section Digest

variable {py : PyRuntime} {env : SignalsEnv} {sha256 : String → String} {headers : Headers}
  {payload : GovernanceEvaluateRequest}

/-- The fields that the server derives are those of the request. -/
structure SameDerived (payload : GovernanceEvaluateRequest) (cost : DerivedCost)
    (sensitivity : Bool × Bool) : Prop where
  costPerRequestUsd : payload.costPerRequestUsd = cost.costPerRequestUsd
  costPerHourUsd : payload.costPerHourUsd = cost.costPerHourUsd
  monthToDateCostUsd : payload.monthToDateCostUsd = cost.monthToDateCostUsd
  forecastMonthlyCostUsd : payload.forecastMonthlyCostUsd = cost.forecastMonthlyCostUsd
  sensitiveData : payload.sensitiveData = sensitivity.1
  writePermission : payload.writePermission = sensitivity.2

/-- Enrichment leaves alone what an approval authorises: the caller may supply the signals, or
supplies those that the server derives. -/
def Underived (py : PyRuntime) (env : SignalsEnv) (headers : Headers)
    (payload : GovernanceEvaluateRequest) : Prop :=
  allowClientGovernanceSignals py env headers = true ∨
    ∃ cost, deriveRequestCost py env payload.model payload.inputTokens payload.outputTokens
        (snapshotCost (env.quotaState payload.team)) = .ok cost ∧
      SameDerived payload cost (deriveSensitivity py env payload.team payload.namespace headers)

/-- The counters are not authorised. -/
theorem sameBinding_overlayCounters (snapshot : Option QuotaStateSnapshot)
    (payload : GovernanceEvaluateRequest) :
    Binding.SameBinding payload (overlayCounters snapshot payload) := by
  unfold overlayCounters
  split
  · split
    · exact (Binding.bound_eq_iff _ _).mp rfl
    · exact (Binding.bound_eq_iff _ _).mp rfl
  · exact (Binding.bound_eq_iff _ _).mp rfl

theorem sameBinding_overlayDerived_iff {counted : GovernanceEvaluateRequest} {cost : DerivedCost}
    {sensitivity : Bool × Bool} (h : Binding.SameBinding payload counted) :
    Binding.SameBinding payload (overlayDerived counted cost sensitivity) ↔
      SameDerived payload cost sensitivity := by
  constructor
  · intro hsame
    exact ⟨hsame.costPerRequestUsd, hsame.costPerHourUsd, hsame.monthToDateCostUsd,
      hsame.forecastMonthlyCostUsd, hsame.sensitiveData, hsame.writePermission⟩
  · intro hsame
    exact { h with
      costPerRequestUsd := hsame.costPerRequestUsd
      costPerHourUsd := hsame.costPerHourUsd
      monthToDateCostUsd := hsame.monthToDateCostUsd
      forecastMonthlyCostUsd := hsame.forecastMonthlyCostUsd
      sensitiveData := hsame.sensitiveData
      writePermission := hsame.writePermission }

/-- **When enrichment keeps the digest.** -/
theorem digest_enriched_iff (hsha : Function.Injective sha256)
    {enriched : GovernanceEvaluateRequest × Option QuotaStateSnapshot × PrometheusSignals}
    (h : enrichGovernanceRequest py env payload headers = .ok enriched) :
    Binding.computeRequestDigest py sha256 payload
        = Binding.computeRequestDigest py sha256 enriched.1 ↔
      Underived py env headers payload := by
  rw [(Binding.digest_exact py sha256 hsha).1]
  -- the counters of the quota state are not bound, so they make no difference
  have hcounted := sameBinding_overlayCounters (env.quotaState payload.team) payload
  unfold enrichGovernanceRequest at h
  unfold Underived
  dsimp only at h
  by_cases hclient : allowClientGovernanceSignals py env headers = true
  · rw [if_pos hclient] at h
    rw [← Except.ok.inj h]
    exact iff_of_true hcounted (Or.inl hclient)
  · rw [if_neg hclient] at h
    obtain ⟨cost, hcost, hrest⟩ := bind_eq_ok.mp h
    rw [← Except.ok.inj hrest]
    refine (sameBinding_overlayDerived_iff hcounted).trans
      ⟨fun hsame => Or.inr ⟨cost, hcost, hsame⟩, fun hor => ?_⟩
    obtain ⟨cost', hcost', hsame⟩ := hor.resolve_left hclient
    rw [hcost] at hcost'
    rw [Except.ok.inj hcost']
    exact hsame

end Digest

/-! ## The same request again -/

/-- The headers of a request that comes again, with the id of an approval. -/
structure Cites (approvalId : String) (headers headers' : Headers) : Prop where
  cited : headerText headers' "x-ai-approval-id" = approvalId
  others : ∀ name, name ≠ "x-ai-approval-id" → headers'.getD name "" = headers.getD name ""

section Again

variable {approvalId : String} {headers headers' : Headers}

theorem Cites.text (h : Cites approvalId headers headers') (name : String)
    (hname : name ≠ "x-ai-approval-id") : headerText headers' name = headerText headers name := by
  unfold headerText
  rw [h.others name hname]

theorem Cites.token (h : Cites approvalId headers headers') (py : PyRuntime) :
    bearerToken py headers' = bearerToken py headers := by
  unfold bearerToken
  rw [h.others "authorization" (by decide)]

theorem Cites.identityClaims (h : Cites approvalId headers headers') (py : PyRuntime)
    (auth : AuthEnv) : identityClaims py auth headers' = identityClaims py auth headers := by
  unfold ControlPlane.identityClaims requireBearerClaims extractBearerClaims
  rw [h.token]

theorem Cites.supplyChain (h : Cites approvalId headers headers')
    (body : GovernanceEvaluateRequest) :
    applySupplyChainHeaders body headers' = applySupplyChainHeaders body headers := by
  unfold applySupplyChainHeaders
  rw [h.text _ (by decide), h.text _ (by decide), h.text _ (by decide)]

theorem Cites.identity (h : Cites approvalId headers headers') (py : PyRuntime) (auth : AuthEnv)
    (body : GovernanceEvaluateRequest) :
    resolveWorkloadIdentity py auth headers' body
      = resolveWorkloadIdentity py auth headers body := by
  have hgroups : parseGroupsHeader headers' = parseGroupsHeader headers := by
    unfold parseGroupsHeader
    rw [h.text _ (by decide)]
  have htenant : ∀ claims groups, openTenant py claims headers' groups body
      = openTenant py claims headers groups body := by
    intro claims groups
    unfold openTenant
    rw [h.text _ (by decide), h.text _ (by decide)]
  have hsubject : ∀ claims, resolveSubject py claims headers' body
      = resolveSubject py claims headers body := by
    intro claims
    unfold resolveSubject
    rw [h.text _ (by decide)]
  have hsource : ∀ claims, identitySource claims headers' body
      = identitySource claims headers body := by
    intro claims
    -- only the header with the id is another one
    have hnames : ∀ name ∈ ["x-ai-subject", "x-ai-team", "x-ai-tenant", "x-ai-owner",
        "x-ai-groups"], headers'.getD name "" = headers.getD name "" := by
      intro name hname
      refine h.others name (fun hid => ?_)
      rw [hid] at hname
      exact absurd hname (by decide)
    have hany : (["x-ai-subject", "x-ai-team", "x-ai-tenant", "x-ai-owner", "x-ai-groups"].any
        (fun name => headers'.getD name "" ≠ "")) = (["x-ai-subject", "x-ai-team", "x-ai-tenant",
          "x-ai-owner", "x-ai-groups"].any (fun name => headers.getD name "" ≠ "")) := by
      rw [Bool.eq_iff_iff, List.any_eq_true, List.any_eq_true]
      refine exists_congr (fun name => and_congr_right (fun hname => ?_))
      rw [hnames name hname]
    unfold identitySource
    rw [hany]
  unfold resolveWorkloadIdentity
  simp only [h.identityClaims, hgroups, htenant, hsubject, hsource,
    h.text "x-ai-owner" (by decide), h.text "x-ai-policy-pack" (by decide),
    h.text "x-ai-environment" (by decide), h.text "x-ai-namespace" (by decide)]

/-- **The merged request** is the same. -/
theorem Cites.mergedRequest (h : Cites approvalId headers headers') (server : Server)
    (body : GovernanceEvaluateRequest) :
    server.mergedRequest headers' body = server.mergedRequest headers body := by
  unfold Server.mergedRequest
  dsimp only
  rw [h.supplyChain, h.identity]

end Again

/-! ## The first time -/

/-- The digests that a decision stores. -/
def Stores (requestDigest policyDigest : String) (d : DecisionRow) : Prop :=
  d.requestDigest = requestDigest ∧ d.policyDigest = policyDigest

/-- The ids of a new decision and its approval are not taken. -/
structure Unused (draws : Draws) (rows : List Row) : Prop where
  keys : (rows.map Row.key).Nodup
  approval : RowKey.approval draws.approvalId ∉ rows.map Row.key
  decision : RowKey.decision draws.decisionId ∉ rows.map Row.key

section First

variable {server : Server} {process : PolicyProcess} {headers : Headers}
  {body merged : GovernanceEvaluateRequest} {draws : Draws} {clock : ℕ → Instant}

theorem Unused.update {rows : List Row} {guard : ApprovalRow → Bool}
    {set : ApprovalRow → ApprovalRow} (h : Unused draws rows)
    (hid : ∀ a, (set a).approvalId = a.approvalId) :
    Unused draws ((updateApprovals guard set).apply rows) := by
  have hkeys : ((updateApprovals guard set).apply rows).map Row.key = rows.map Row.key :=
    keys_update hid
  exact ⟨hkeys ▸ h.keys, hkeys ▸ h.approval, hkeys ▸ h.decision⟩

theorem Unused.audit {rows : List Row} {m : AuditMetaRow} (h : Unused draws rows)
    (hadmits : schema.admits rows (.auditMeta m) = true) :
    Unused draws (rows ++ [.auditMeta m]) := by
  have hkeys : (rows ++ [Row.auditMeta m]).map Row.key
      = rows.map Row.key ++ [.auditMeta m.eventId] := List.map_append
  refine ⟨nodup_insert h.keys hadmits, ?_, ?_⟩
  · rw [hkeys, List.mem_append, List.mem_singleton]
    rintro (hold | hnew)
    · exact h.approval hold
    · cases hnew
  · rw [hkeys, List.mem_append, List.mem_singleton]
    rintro (hold | hnew)
    · exact h.decision hold
    · cases hnew

/-- What a request redeems does not take the ids. -/
theorem settles_redeem (approvalId : String) :
    (server.redeem process merged approvalId draws clock).Settles schema (Unused draws)
      (fun _ => Unused draws) (Unused draws) := by
  unfold Server.redeem
  split
  · exact Prog.settles_ok (fun _ h => h)
  · have hissues : (approvalGrantsAllow server.py server.sha256 approvalId merged
        process.bundle.contentDigest draws.consumedEvent clock).Issues
        (Prog.Preserves schema (Unused draws)) :=
      issues_approvalGrantsAllow (fun _ rows h => h.update (fun _ => rfl))
        (fun _ rows h => h.update (fun _ => rfl)) (fun m _ rows h hadmits => h.audit hadmits)
    exact (ExactlyOnce.settles_redemption.and_keeps hissues.keeps).mono (fun _ h => ⟨trivial, h⟩)
      (fun _ _ h => h.2) (fun _ h => h.2)

/-- The rows of an evaluation behind others. -/
theorem origin_of_added {result : GovernanceEvaluateResponse} {request : GovernanceEvaluateRequest}
    {rows rows' : List Row} (h : Unused draws rows) (hkeys : (rows'.map Row.key).Nodup)
    (hadded : AddedTo server.py server.sha256 result request draws server.approvalTtlSeconds clock
      rows rows') :
    Origin draws.approvalId draws.decisionId
      (Stores (Binding.computeRequestDigest server.py server.sha256 request)
        (result.policyDigest.getD "")) rows' := by
  obtain ⟨-, digests, rfl⟩ := hadded
  refine ⟨hkeys, fun a ha hid => ?_, fun d hd hid => ?_⟩
  · rw [approvals_append, List.mem_append] at ha
    rcases ha with ha | ha
    · -- the id of the draw was not taken before
      have hmem := List.mem_map_of_mem (f := Row.key) ((mem_approvals rows).mp ha)
      exact absurd (hid ▸ hmem) h.approval
    · rw [AuditTrail.approvals_evaluationRows] at ha
      split at ha
      · rw [List.mem_singleton.mp ha]
        have hd : decisionRow server.py server.sha256 result request draws clock digests
            ∈ decisions (rows ++ evaluationRows server.py server.sha256 result request draws
              server.approvalTtlSeconds clock digests) := by
          rw [decisions_append, ExactlyOnce.decisions_evaluationRows]
          exact List.mem_append_right _ (List.mem_singleton_self _)
        exact ⟨rfl, _, hd, rfl⟩
      · cases ha
  · rw [decisions_append, List.mem_append, ExactlyOnce.decisions_evaluationRows] at hd
    rcases hd with hd | hd
    · have hmem := List.mem_map_of_mem (f := Row.key) ((mem_decisions rows).mp hd)
      exact absurd (hid ▸ hmem) h.decision
    · rw [List.mem_singleton.mp hd]
      exact ⟨rfl, rfl⟩

/-- What an evaluation that asks for an approval leaves. -/
def Asks (server : Server) (headers : Headers) (merged : GovernanceEvaluateRequest) (draws : Draws)
    (response : GovernanceEvaluateResponse) (rows : List Row) : Prop :=
  response.finalVerdict = .approvalRequired → ∃ enriched,
    enrichGovernanceRequest server.py server.signals merged headers = .ok enriched ∧
    response.approvalId = some draws.approvalId ∧
    Origin draws.approvalId draws.decisionId
      (Stores (Binding.computeRequestDigest server.py server.sha256 enriched.1)
        (response.policyDigest.getD "")) rows

/-- What is recorded keeps the digest of the policy. -/
theorem policyDigest_recorded {result recorded : GovernanceEvaluateResponse}
    {request : GovernanceEvaluateRequest} {fails : ℕ → Option PyError} {σ σ' : Session Row}
    (h : (persistEvaluation server.py server.sha256 result request draws server.approvalTtlSeconds
      clock).run schema fails σ = (.ok recorded, σ')) :
    recorded.policyDigest = result.policyDigest := by
  obtain ⟨digests, σ₁, -, hrest⟩ := Prog.run_bind_eq_ok.mp h
  obtain ⟨cited, σ₂, -, hdone⟩ := Prog.run_bind_eq_ok.mp hrest
  cases hdone
  rfl

theorem settles_record {result : GovernanceEvaluateResponse} {request : GovernanceEvaluateRequest} :
    (persistEvaluation server.py server.sha256 result request draws server.approvalTtlSeconds
      clock).Settles schema (Unused draws)
      (fun recorded rows => recorded.finalVerdict = result.finalVerdict ∧
        recorded.approvalId = citedApproval result draws ∧
        Origin draws.approvalId draws.decisionId
          (Stores (Binding.computeRequestDigest server.py server.sha256 request)
            (recorded.policyDigest.getD "")) rows)
      (fun _ => True) := by
  refine Prog.settles_of_rows (fun rows h => ?_)
  have hissues : (persistEvaluation server.py server.sha256 result request draws
      server.approvalTtlSeconds clock).Issues
      (Prog.Preserves schema (fun rows => (rows.map Row.key).Nodup)) :=
    issues_persistEvaluation (fun _ => AuditTrail.preserves_keys _) (AuditTrail.preserves_keys _)
      (fun _ _ => AuditTrail.preserves_keys _)
  intro fails σ hσ
  obtain ⟨hok, herror⟩ := (settles_persistEvaluation server.py server.sha256 result request draws
    server.approvalTtlSeconds clock rows).and_keeps hissues.keeps fails σ
    ⟨hσ.1, hσ.2, by rw [hσ.2]; exact h.keys⟩
  refine ⟨fun recorded hrecorded => ?_, fun e he => ⟨(herror e he).1, trivial⟩⟩
  obtain ⟨hclean, ⟨⟨-, hcited, hverdict⟩, hadded⟩, hkeys⟩ := hok recorded hrecorded
  refine ⟨hclean, hverdict, hcited, ?_⟩
  rw [policyDigest_recorded (Prod.ext hrecorded rfl)]
  exact origin_of_added h hkeys hadded

/-- **The branch without a granted approval.** -/
theorem settles_evaluateFresh :
    (server.evaluateFresh process headers merged draws clock).Settles schema (Unused draws)
      (Asks server headers merged draws) (fun _ => True) := by
  unfold Server.evaluateFresh
  cases henrich : enrichGovernanceRequest server.py server.signals merged headers with
  | error e => exact Prog.settles_error (fun _ _ => trivial)
  | ok enriched =>
    rw [Prog.bind_ok]
    refine Prog.settles_bind (R := fun result rows => result.approvalId = none ∧ Unused draws rows)
      ((AuditTrail.settles_evaluateSynced (P := Unused draws) process _ _).mono (fun _ h => h)
        (fun _ _ h => ⟨h.2, h.1⟩) (fun _ _ => trivial)) (fun result => ?_)
    refine Prog.settles_of_fact (fun hnone => ?_)
    refine settles_record.mono (fun _ h => h) (fun recorded rows h hverdict => ?_) (fun _ h => h)
    obtain ⟨hsame, hcited, horigin⟩ := h
    refine ⟨enriched, henrich, ?_, horigin⟩
    have hasks : AsksApproval result := ⟨hsame.symm.trans hverdict, by rw [hnone]; rfl⟩
    rw [hcited]
    unfold citedApproval
    rw [if_pos hasks]

theorem settles_evaluateMerged :
    (server.evaluateMerged process headers merged draws clock).Settles schema (Unused draws)
      (Asks server headers merged draws) (fun _ => True) := by
  have hstep : ∀ {P : List Row → Prop}, pythonStep.Settles schema P (fun _ => P) (fun _ => True) :=
    fun {P} => (settles_pythonStep (P := P) (fun _ h => h)).mono (fun _ h => h) (fun _ _ h => h)
      (fun _ _ => trivial)
  -- a granted request is allowed
  have hallow : ∀ approvalId clock, (server.allowRedeemed process merged approvalId draws
      clock).Settles schema (Unused draws) (Asks server headers merged draws) (fun _ => True) := by
    intro approvalId clock
    refine Prog.settles_bind hstep (fun _ => ?_)
    refine Prog.settles_bind settles_record (fun recorded => ?_)
    refine Prog.settles_bind hstep (fun _ => Prog.settles_ok (fun rows h hverdict => ?_))
    rw [h.1] at hverdict
    cases hverdict
  unfold Server.evaluateMerged Server.evaluateOrRedeem
  refine Prog.settles_bind (R := fun evaluated => Asks server headers merged draws evaluated.1)
    (Prog.settles_handle ?_ (fun e => Prog.settles_error (P := fun _ => True) (fun _ _ => trivial)))
    (fun evaluated => ?_)
  · refine Prog.settles_bind (R := fun _ => Unused draws) ((settles_redeem _).mono (fun _ h => h)
      (fun _ _ h => h) (fun _ _ => trivial)) (fun granted => ?_)
    split
    · exact Prog.settles_bind (hallow _ _) (fun result => Prog.settles_ok (fun _ h => h))
    · exact Prog.settles_bind settles_evaluateFresh (fun result => Prog.settles_ok (fun _ h => h))
  · unfold Server.auditFresh
    split
    · exact Prog.settles_ok (fun _ h => h)
    · exact Prog.settles_bind hstep (fun _ => Prog.settles_ok (fun _ h => h))

/-- **The first time.**  Whatever fails on the way, a request that is answered with an approval has
a decision with the digest of the enriched request. -/
theorem origin_of_asked {fails : ℕ → Option PyError} {rows : List Row}
    {response : GovernanceEvaluateResponse} (h : Unused draws rows)
    (hok : (outcome (server.governanceEvaluate process headers body draws clock) fails rows).1
      = .ok response) (hverdict : response.finalVerdict = .approvalRequired) :
    ∃ merged enriched, server.mergedRequest headers body = .ok merged ∧
      enrichGovernanceRequest server.py server.signals merged headers = .ok enriched ∧
      response.approvalId = some draws.approvalId ∧
      Origin draws.approvalId draws.decisionId
        (Stores (Binding.computeRequestDigest server.py server.sha256 enriched.1)
          (response.policyDigest.getD ""))
        (outcome (server.governanceEvaluate process headers body draws clock) fails rows).2 := by
  unfold Server.governanceEvaluate at hok ⊢
  cases hmerged : server.mergedRequest headers body with
  | error e =>
    rw [hmerged] at hok
    cases hok
  | ok merged =>
    rw [hmerged, Prog.bind_ok] at hok
    rw [Prog.bind_ok]
    -- the request id of the draw does not enter
    have hunused : Unused { draws with
        requestId := orElse (headers.getD "x-request-id" "") draws.requestId } rows :=
      ⟨h.keys, h.approval, h.decision⟩
    obtain ⟨enriched, hrest⟩ := (outcome_of_settles settles_evaluateMerged fails hunused).1 response
      hok hverdict
    exact ⟨merged, enriched, rfl, hrest⟩

end First

/-! ## The next time -/

section Next

variable {server : Server} {process : PolicyProcess} {headers : Headers}
  {body merged enriched : GovernanceEvaluateRequest} {draws : Draws} {clock : ℕ → Instant}
  {rows : List Row} {approvalId decisionId policyDigest : String}

/-- The policy and the contracts have not changed since the decision. -/
structure Accepts (server : Server) (process : PolicyProcess) (merged : GovernanceEvaluateRequest)
    (policyDigest : String) (d : DecisionRow) (rows : List Row) : Prop where
  policy : ¬ clash process.bundle.contentDigest policyDigest
  capabilities : bindsCapabilities (digestsIn server.py server.sha256 rows merged) d = true

variable (process merged) in
/-- **An open approval** is redeemed for the request whose digest its decision stores. -/
theorem redeemable_iff (hhex : ∀ text, server.sha256 text ≠ "")
    (horigin : Origin approvalId decisionId
      (Stores (Binding.computeRequestDigest server.py server.sha256 enriched) policyDigest) rows)
    {a : ApprovalRow} (ha : findApproval rows approvalId = some a) (hopen : a.isOpen = true)
    {d : DecisionRow} (hd : findDecision rows decisionId = some d) :
    (∃ a d, Redeemable server.py server.sha256 rows approvalId merged process.bundle.contentDigest
      a d) ↔ Binding.computeRequestDigest server.py server.sha256 merged
        = Binding.computeRequestDigest server.py server.sha256 enriched ∧
      Accepts server process merged policyDigest d rows := by
  obtain ⟨hid, hmem⟩ := findApproval_some ha
  obtain ⟨hdid, hdmem⟩ := findDecision_some hd
  have hdecision : a.decisionId = decisionId := (horigin.approval a hmem hid).1
  obtain ⟨hstored, hpolicyStored⟩ : Stores _ _ d := horigin.decision d hdmem hdid
  have hne : d.requestDigest ≠ "" := by
    rw [hstored]
    exact hhex _
  -- the digest that was stored is not computed again
  have happroved : approvedDigest server.py server.sha256 d = d.requestDigest := by
    unfold approvedDigest orElse
    rw [if_neg hne]
  constructor
  · rintro ⟨a', d', hr⟩
    have hsame : a' = a := Option.some.inj (hr.approval.symm.trans ha)
    have hsame' : d' = d := by
      have hfound := hr.decision
      rw [hsame, hdecision, hd] at hfound
      exact (Option.some.inj hfound).symm
    obtain ⟨-, hdigest, hpolicy⟩ := of_decide_eq_true hr.bound
    rw [hsame', happroved, hstored] at hdigest
    rw [hsame', hpolicyStored] at hpolicy
    exact ⟨hdigest, hpolicy, hsame' ▸ hr.pinned⟩
  · rintro ⟨hdigest, haccepts⟩
    refine ⟨a, d, ha, hopen, by rw [hdecision]; exact hd, decide_eq_true ⟨?_, ?_, ?_⟩,
      haccepts.capabilities⟩
    · rw [happroved]
      exact hne
    · rw [happroved, hstored]
      exact hdigest
    · rw [hpolicyStored]
      exact haccepts.policy

variable (draws clock) in
/-- A request that redeems nothing leaves the approval unspent. -/
theorem not_consumed (hid : headerText headers "x-ai-approval-id" = approvalId)
    (h : ∀ a d, ¬ Redeemable server.py server.sha256 rows approvalId merged
      process.bundle.contentDigest a d) (hbefore : ¬ Consumed approvalId rows)
    (fails : ℕ → Option PyError) :
    ¬ Consumed approvalId
      (outcome (server.evaluateMerged process headers merged draws clock) fails rows).2 := by
  -- no statement but the consumption itself consumes
  have hkept : ∀ row : Row, (∀ a ∈ approvals [row], a.status ≠ .consumed) →
      Prog.Preserves schema (fun rows => ¬ Consumed approvalId rows) (.insert row) := by
    intro row hrow rows hrows _
    rw [ExactlyOnce.consumed_append hrow]
    exact hrows
  have haudit : ∀ m : AuditMetaRow, Prog.Preserves schema (fun rows => ¬ Consumed approvalId rows)
      (.insert (.auditMeta m)) := fun m => hkept _ (fun a ha => absurd ha List.not_mem_nil)
  have hpersist : ∀ (result : GovernanceEvaluateResponse) (request : GovernanceEvaluateRequest)
      clock, (persistEvaluation server.py server.sha256 result request draws
        server.approvalTtlSeconds clock).Issues
        (Prog.Preserves schema (fun rows => ¬ Consumed approvalId rows)) := by
    intro result request clock
    refine issues_persistEvaluation (fun _ => hkept _ (fun a ha => absurd ha List.not_mem_nil))
      (hkept _ (fun a ha => ?_)) (fun m _ => haudit m)
    rw [List.mem_singleton.mp (show a ∈ [_] from ha)]
    exact fun hs => by cases hs
  have hfresh : (server.evaluateFresh process headers merged draws
      (fun i => clock (i + 4))).Issues
      (Prog.Preserves schema (fun rows => ¬ Consumed approvalId rows)) := by
    unfold Server.evaluateFresh
    refine Prog.issues_bind (issues_done _) (fun enriched => ?_)
    exact Prog.issues_bind (issues_evaluateSynced process _ _) (fun result => hpersist _ _ _)
  -- the redemption is refused, with the approval as it was
  have hredeem : (server.redeem process merged approvalId draws clock).Meets schema
      (fun c r => c = rows ∧ r = rows)
      (fun granted c r => granted = false ∧ ¬ Consumed approvalId c ∧ ¬ Consumed approvalId r)
      (fun c _ => ¬ Consumed approvalId c) := by
    have huntouched : ∀ rows', Untouched rows approvalId rows' → ¬ Consumed approvalId rows' :=
      fun rows' hu hc => hbefore (consumed_of_untouched hu hc)
    unfold Server.redeem
    split
    · refine Prog.meets_done ?_ (fun _ _ _ he => by cases he)
      rintro granted c r hgranted ⟨rfl, rfl⟩
      exact ⟨(Except.ok.inj hgranted).symm, hbefore, hbefore⟩
    · refine (keeps_approvalGrantsAllow clock h).meets.mono ?_ ?_ (fun _ _ hu => huntouched _ hu.1)
      · rintro c r ⟨rfl, rfl⟩
        exact ⟨.refl, .refl⟩
      · rintro granted c r ⟨hresult, hc, hr⟩
        refine ⟨?_, huntouched c hc, huntouched r hr⟩
        cases granted with
        | true => exact absurd rfl hresult
        | false => rfl
  have hall : (server.evaluateMerged process headers merged draws clock).Meets schema
      (fun c r => c = rows ∧ r = rows) (fun _ c _ => ¬ Consumed approvalId c)
      (fun c _ => ¬ Consumed approvalId c) := by
    unfold Server.evaluateMerged Server.evaluateOrRedeem
    rw [hid]
    have hevaluated : ∀ outcome, (Server.auditFresh outcome).Issues
        (Prog.Preserves schema (fun rows => ¬ Consumed approvalId rows)) := by
      intro outcome
      unfold Server.auditFresh
      split
      · trivial
      · exact Prog.issues_bind issues_pythonStep (fun _ => trivial)
    refine Prog.meets_bind (R := fun _ c r => ¬ Consumed approvalId c ∧ ¬ Consumed approvalId r)
      (Prog.meets_handle (Prog.meets_bind hredeem (fun granted => Prog.meets_of_fact
        (fun hgranted => ?_))) (fun e => Prog.meets_done (fun _ _ _ ha => by cases ha)
          (fun _ _ _ _ hc => hc))) (fun evaluated => ?_)
    · have hbranch : (do
          let result ← server.evaluateFresh process headers merged draws (fun i => clock (i + 4))
          return (result, false) : StoreM (GovernanceEvaluateResponse × Bool)).Issues
          (Prog.Preserves schema (fun rows => ¬ Consumed approvalId rows)) :=
        Prog.issues_bind hfresh (fun _ => trivial)
      rw [if_neg (by rw [hgranted]; decide)]
      exact hbranch.keeps.meets.mono (fun _ _ hc => hc) (fun _ _ _ hc => hc.2) (fun _ _ hc => hc.1)
    · exact (hevaluated evaluated).keeps.meets.mono (fun _ _ hc => hc) (fun _ _ _ hc => hc.2.1)
        (fun _ _ hc => hc.1)
  obtain ⟨hok, herror⟩ := hall fails (.ofRows rows) ⟨rfl, rfl⟩
  cases hres : (outcome (server.evaluateMerged process headers merged draws clock) fails
      rows).1 with
  | ok response => exact hok response hres
  | error e => exact herror e hres

/-- What a request that redeems an approval answers and leaves. -/
structure Pays (approvalId : String) (draws : Draws)
    (after : Except PyError GovernanceEvaluateResponse × List Row) : Prop where
  allowed : ∃ response, after.1 = .ok response ∧ response.finalVerdict = .allow ∧
    response.approvalId = some approvalId
  consumed : Consumed approvalId after.2
  recorded : ∃ d ∈ decisions after.2, d.decisionId = draws.decisionId ∧ d.finalVerdict = .allow

variable (clock) in
/-- **A request that redeems an approval** is allowed. -/
theorem pays (hid : headerText headers "x-ai-approval-id" = approvalId) (hne : approvalId ≠ "")
    (hkeys : (rows.map Row.key).Nodup) (hdraws : ExactlyOnce.Fresh draws rows) {a : ApprovalRow}
    {d : DecisionRow} (h : Redeemable server.py server.sha256 rows approvalId merged
      process.bundle.contentDigest a d) :
    Pays approvalId draws (outcome (server.evaluateMerged process headers merged draws clock)
      (fun _ => none) rows) := by
  have hexecutes : (server.evaluateMerged process headers merged draws clock).Executes schema rows
      _ _ _ := ExactlyOnce.executes_evaluateMerged hid hne hkeys hdraws h
  obtain ⟨t, hrun⟩ := hexecutes.returns 0
  have hrows : (outcome (server.evaluateMerged process headers merged draws clock) (fun _ => none)
      rows).2 = ExactlyOnce.paidRows server process merged approvalId draws (fun i => clock (i + 4))
        (ExactlyOnce.spentRows server merged approvalId d draws clock rows) := by
    unfold outcome Session.ofRows
    rw [hrun]
    dsimp only
    rw [if_neg (by omega), if_neg (by omega)]
  refine ⟨⟨_, congrArg Prod.fst hrun, rfl, rfl⟩, ?_, ?_⟩
  · rw [hrows]
    unfold ExactlyOnce.paidRows
    rw [ExactlyOnce.consumed_evaluationRows]
    exact Expiry.consumed_redeemedRows h d.decisionId
  · rw [hrows]
    unfold ExactlyOnce.paidRows
    rw [decisions_append, ExactlyOnce.decisions_evaluationRows]
    exact ⟨_, List.mem_append_right _ (List.mem_singleton_self _), rfl, rfl⟩

/-- **The next time**, whatever has happened in between. -/
theorem again_iff (hsha : Function.Injective server.sha256) (hhex : ∀ text, server.sha256 text ≠ "")
    {headers' : Headers} {enrichedAll : GovernanceEvaluateRequest × Option QuotaStateSnapshot ×
      PrometheusSignals}
    (hmerged : server.mergedRequest headers body = .ok merged)
    (henrich : enrichGovernanceRequest server.py server.signals merged headers = .ok enrichedAll)
    (horigin : Origin approvalId decisionId (Stores
      (Binding.computeRequestDigest server.py server.sha256 enrichedAll.1) policyDigest) rows)
    {a : ApprovalRow} (ha : findApproval rows approvalId = some a) (hopen : a.isOpen = true)
    (hcites : Cites approvalId headers headers') (hne : approvalId ≠ "")
    (hdraws : ExactlyOnce.Fresh draws rows) :
    ∃ d, findDecision rows decisionId = some d ∧
      (Consumed approvalId (outcome (server.governanceEvaluate process headers' body draws clock)
        (fun _ => none) rows).2 ↔ Underived server.py server.signals headers merged ∧
          Accepts server process merged policyDigest d rows) ∧
      (Consumed approvalId (outcome (server.governanceEvaluate process headers' body draws clock)
        (fun _ => none) rows).2 → Pays approvalId draws
          (outcome (server.governanceEvaluate process headers' body draws clock) (fun _ => none)
            rows)) := by
  obtain ⟨hid, hmem⟩ := findApproval_some ha
  obtain ⟨-, d', hd', hdid'⟩ := horigin.approval a hmem hid
  obtain ⟨d, hd⟩ : ∃ d, findDecision rows decisionId = some d := by
    unfold findDecision
    rw [← Option.isSome_iff_exists, List.find?_isSome]
    exact ⟨d', hd', decide_eq_true hdid'⟩
  refine ⟨d, hd, ?_⟩
  have hiff := redeemable_iff process merged hhex horigin ha hopen hd
  rw [digest_enriched_iff hsha henrich] at hiff
  -- an open approval is not consumed yet
  have hclosed : ¬ Consumed approvalId rows := by
    rintro ⟨b, hb, hs⟩
    rw [ha, Option.some.injEq] at hb
    rw [← hb, (ApprovalRow.isOpen_iff.mp hopen).1] at hs
    cases hs
  have hdraws' : ExactlyOnce.Fresh { draws with
      requestId := orElse (headers'.getD "x-request-id" "") draws.requestId } rows :=
    ⟨hdraws.consumed, hdraws.decision, hdraws.recorded, hdraws.distinct⟩
  unfold Server.governanceEvaluate
  rw [hcites.mergedRequest, hmerged, Prog.bind_ok]
  rw [← hiff]
  by_cases hr : ∃ a d, Redeemable server.py server.sha256 rows approvalId merged
      process.bundle.contentDigest a d
  · obtain ⟨b, e, hredeemable⟩ := hr
    have hpays := pays clock hcites.cited hne horigin.keys hdraws' hredeemable
    exact ⟨iff_of_true hpays.consumed ⟨b, e, hredeemable⟩,
      fun _ => ⟨hpays.allowed, hpays.consumed, hpays.recorded⟩⟩
  · have hnot : ∀ a d, ¬ Redeemable server.py server.sha256 rows approvalId merged
        process.bundle.contentDigest a d := fun a d h => hr ⟨a, d, h⟩
    have hkept := not_consumed { draws with
      requestId := orElse (headers'.getD "x-request-id" "") draws.requestId } clock hcites.cited
      hnot hclosed (fun _ => none)
    exact ⟨iff_of_false hkept hr, fun hc => absurd hc hkept⟩

/-- **The golden path, decided.**  A request is answered with an approval, whatever failed on the
way, and any requests follow, each on a server of its own and cut short by any failure.  While the
approval is open, the same request with its id, undisturbed, is allowed and consumes it exactly if
the caller may supply the governance signals or supplied those that the server derives, the policy
of the process is that of the decision, and the active contracts do not contradict the pinned
ones. -/
theorem golden_path (server : Server) (hsha : Function.Injective server.sha256)
    (hhex : ∀ text, server.sha256 text ≠ "") (process process' : PolicyProcess)
    (headers headers' : Headers) (body : GovernanceEvaluateRequest) (draws draws' : Draws)
    (clock clock' : ℕ → Instant) (fails : ℕ → Option PyError)
    (later : List ((Server × GateCall) × (ℕ → Option PyError))) (rows reached : List Row)
    (response : GovernanceEvaluateResponse) (hunused : Unused draws rows)
    (hok : (outcome (server.governanceEvaluate process headers body draws clock) fails rows).1
      = .ok response) (hverdict : response.finalVerdict = .approvalRequired)
    (hlater : ∀ call ∈ later, ∀ drawn ∈ call.1.2.draws,
      drawn.approvalId ≠ draws.approvalId ∧ drawn.decisionId ≠ draws.decisionId)
    (hreached : reached = runCalls (uncurry GateCall.after) later
      (outcome (server.governanceEvaluate process headers body draws clock) fails rows).2)
    (a : ApprovalRow) (ha : findApproval reached draws.approvalId = some a)
    (hopen : a.isOpen = true) (hcites : Cites draws.approvalId headers headers')
    (hne : draws.approvalId ≠ "") (hdraws : ExactlyOnce.Fresh draws' reached) :
    response.approvalId = some draws.approvalId ∧
    ∃ merged d, server.mergedRequest headers body = .ok merged ∧
      findDecision reached draws.decisionId = some d ∧
      (Consumed draws.approvalId (outcome (server.governanceEvaluate process' headers' body draws'
        clock') (fun _ => none) reached).2 ↔ Underived server.py server.signals headers merged ∧
          Accepts server process' merged (response.policyDigest.getD "") d reached) ∧
      (Consumed draws.approvalId (outcome (server.governanceEvaluate process' headers' body draws'
        clock') (fun _ => none) reached).2 → Pays draws.approvalId draws'
          (outcome (server.governanceEvaluate process' headers' body draws' clock') (fun _ => none)
            reached)) := by
  obtain ⟨merged, enriched, hmerged, henrich, hcited, horigin⟩ :=
    origin_of_asked hunused hok hverdict
  -- the requests in between keep where the approval comes from
  have horigin' := runCalls_invariant (uncurry GateCall.after)
    (fun request failing rows hdrawn h => origin_after request.2 failing hdrawn h)
    (everyStep_of_mem (P := fun request => ∀ drawn ∈ request.2.draws,
      drawn.approvalId ≠ draws.approvalId ∧ drawn.decisionId ≠ draws.decisionId)
      (uncurry GateCall.after) hlater _) horigin
  rw [← hreached] at horigin'
  obtain ⟨d, hd, hagain⟩ := again_iff hsha hhex hmerged henrich horigin' ha hopen hcites hne hdraws
  exact ⟨hcited, merged, d, hmerged, hd, hagain⟩

end Next

/-! ### The golden path in the demo -/

/-- A demo process whose digest keeps its text. -/
def goldenServer : Server := { AuditTrail.demoServer with sha256 := fun text => "h" ++ text }

/-- A request that needs an approval. -/
def productionBody : GovernanceEvaluateRequest :=
  { environment := "production", toolAccess := true, writePermission := true }

/-- The request for the first time. -/
def firstTime : Except PyError GovernanceEvaluateResponse × List Row :=
  outcome (goldenServer.governanceEvaluate { bundle := shippedBundle } (Dict.ofList [])
    productionBody (drawsOf "d1" "a1" "e1" "e2") (fun _ => 0)) (fun _ => none) []

/-- The approval is granted. -/
def grantedLater : List ((Server × GateCall) × (ℕ → Option PyError)) :=
  [((goldenServer, .approveRequest (Dict.ofList []) "a1" { reviewer := "bob" } "e3" (fun _ => 1)),
    fun _ => none)]

/-- The store before the request comes again. -/
def grantedRows : List Row := runCalls (uncurry GateCall.after) grantedLater firstTime.2

/-- The headers of the request that comes again. -/
def citing : Headers := Dict.ofList [("x-ai-approval-id", "a1")]

/-- The ids that it draws. -/
def drawsAgain : Draws := { drawsOf "d2" "a2" "e4" "e5" with consumedEvent := "e6" }

theorem cites_citing : Cites "a1" (Dict.ofList []) citing where
  cited := by decide +kernel
  others name hname := by
    unfold citing Dict.getD Dict.ofList
    rw [List.lookup_cons, beq_eq_false_iff_ne.mpr hname]

/-- Without contracts nothing is pinned. -/
theorem digestsIn_nil {py : PyRuntime} {sha256 : String → String} {rows : List Row}
    (h : capabilities rows = []) (request : GovernanceEvaluateRequest) :
    digestsIn py sha256 rows request = ("", "") := by
  have hnone : ∀ f limit offset, selectContracts f limit offset rows = [] := by
    intro f limit offset
    unfold selectContracts
    rw [h]
    simp
  unfold digestsIn capabilityDigests
  dsimp only
  rw [hnone, hnone]
  split <;> rfl

/-- The request comes again, and is allowed. -/
theorem golden_path_demo :
    Pays "a1" drawsAgain (outcome (goldenServer.governanceEvaluate { bundle := shippedBundle }
      citing productionBody drawsAgain (fun _ => 2)) (fun _ => none) grantedRows) := by
  have hanswer : firstTime.1.toOption.map (fun r => (r.finalVerdict, r.policyDigest))
      = some (.approvalRequired, some shippedBundle.contentDigest) := by decide +kernel
  have hopen : (findApproval grantedRows "a1").any ApprovalRow.isOpen = true := by decide +kernel
  have hkeys : grantedRows.map Row.key
      = [.decision "d1", .approval "a1", .auditMeta "e1", .auditMeta "e2", .auditMeta "e3"] := by
    decide +kernel
  obtain ⟨response, hresponse, hdigests⟩ := Option.map_eq_some_iff.mp hanswer
  obtain ⟨a, ha, hisOpen⟩ := (Option.any_eq_true _ _).mp hopen
  have hok : firstTime.1 = .ok response := by
    cases hres : firstTime.1 with
    | ok r =>
      rw [hres] at hresponse
      exact congrArg Except.ok (Option.some.inj hresponse)
    | error e =>
      rw [hres] at hresponse
      cases hresponse
  have hsha : Function.Injective goldenServer.sha256 :=
    fun s t h => (String.append_right_inj "h").mp h
  have hhex : ∀ text, goldenServer.sha256 text ≠ "" := by
    intro text h
    have hlength : ("h" ++ text).length = 0 := congrArg String.length h
    rw [String.length_append] at hlength
    have hone : "h".length = 1 := rfl
    omega
  have hfresh : ExactlyOnce.Fresh drawsAgain grantedRows := by
    refine ⟨?_, ?_, ?_, by decide⟩
    · rw [hkeys]
      decide
    · rw [hkeys]
      decide
    · rw [hkeys]
      decide
  have hcontracts : capabilities grantedRows = [] := by decide +kernel
  obtain ⟨-, merged, d, hmerged, hd, hiff, hpays⟩ := golden_path goldenServer hsha hhex
    { bundle := shippedBundle } { bundle := shippedBundle } (Dict.ofList []) citing productionBody
    (drawsOf "d1" "a1" "e1" "e2") drawsAgain (fun _ => 0) (fun _ => 2) (fun _ => none) grantedLater
    [] grantedRows response ⟨List.nodup_nil, List.not_mem_nil, List.not_mem_nil⟩ hok
    (congrArg Prod.fst hdigests) (fun call hcall drawn hdrawn => by
      rw [List.mem_singleton.mp hcall] at hdrawn
      cases hdrawn) rfl a ha hisOpen cites_citing (by decide) hfresh
  refine hpays (hiff.mpr ⟨Or.inl (by decide +kernel), ?_, ?_⟩)
  · have hpolicy : response.policyDigest = some shippedBundle.contentDigest :=
      congrArg Prod.snd hdigests
    rw [hpolicy]
    decide
  · rw [digestsIn_nil hcontracts]
    simp [bindsCapabilities, clash]

end ControlPlane.GoldenPath

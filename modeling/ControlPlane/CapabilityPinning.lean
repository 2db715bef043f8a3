/-
# Capability pinning

A decision pins the digests of the capability contracts that were active when it was made.
A redemption compares each of them with the current one when both are there; a contract
that was retired has no current digest, and its pin is not enforced.  Nor is the pin of a tool
whose contract is active behind 500 others.
-/
import ControlPlane.ExecutionDigests

namespace ControlPlane.CapabilityPinning

open Transaction

variable (py : PyRuntime) (sha256 : String → String)

/-- The approval has been consumed. -/
def Consumed (approvalId : String) (rows : List Row) : Prop :=
  ∃ a, findApproval rows approvalId = some a ∧ a.status = .consumed

theorem consumed_of_untouched {rows₀ rows : List Row} {approvalId : String}
    (h : Untouched rows₀ approvalId rows) (hc : Consumed approvalId rows) :
    Consumed approvalId rows₀ := by
  obtain ⟨a, ha, hs⟩ := hc
  rcases h.approval with hsame | ⟨b, b', -, -, hb', hs'⟩
  · exact ⟨a, hsame ▸ ha, hs⟩
  · rw [hb', Option.some.injEq] at ha
    rw [← ha, hs'] at hs
    cases hs

/-! ## Contracts that are active -/

section Active

variable {rows : List Row} {request : GovernanceEvaluateRequest}

/-- The tenant whose contracts apply to a request. -/
def tenantOf (request : GovernanceEvaluateRequest) : String :=
  strip (orElse request.tenantId request.team)

/-- The contract is active in the tenant; a blank tenant stands for all. -/
def ActiveIn (tenant kind : String) (c : CapabilityContractRow) : Prop :=
  c.kind = kind ∧ c.status = .active ∧ (tenant = "" ∨ c.tenantId = tenant)

instance (tenant kind : String) (c : CapabilityContractRow) : Decidable (ActiveIn tenant kind c) :=
  inferInstanceAs (Decidable (_ ∧ _ ∧ _))

/-- The active contracts of the agent in the tenant. -/
def agentsIn (rows : List Row) (request : GovernanceEvaluateRequest) :
    List CapabilityContractRow :=
  (capabilities rows).filter (fun c => ActiveIn (tenantOf request) "agent" c ∧
    c.name = strip request.agent)

/-- The agent of the request has no active contract, or the one updated last has no digest. -/
def NoAgentContract (rows : List Row) (request : GovernanceEvaluateRequest) : Prop :=
  strip request.agent ≠ "" → agentsIn rows request = [] ∨
    ∃ c ∈ agentsIn rows request, c.contentDigest = "" ∧
      ∀ c' ∈ agentsIn rows request, c'.updatedAt ≤ c.updatedAt

/-- The tools that the contract of the agent lists. -/
def listedFor (rows : List Row) (request : GovernanceEvaluateRequest) : List String :=
  (agentPage request.agent (orElse request.tenantId request.team) rows).elim [] (toolNames py)

/-- The active tools of the tenant. -/
def toolsIn (rows : List Row) (request : GovernanceEvaluateRequest) : List CapabilityContractRow :=
  (capabilities rows).filter (ActiveIn (tenantOf request) "tool")

/-- None of the 500 active tools updated last that have a digest may be used by the agent; nor any
other one that has, when no more are active. -/
structure NoToolContract (rows : List Row) (request : GovernanceEvaluateRequest) : Prop where
  latest : ∀ c ∈ toolPage (orElse request.tenantId request.team) rows,
    c.contentDigest ≠ "" → ¬ MayUse (listedFor py rows request) c.name
  all : (toolsIn rows request).length ≤ 500 → ∀ c ∈ toolsIn rows request,
    c.contentDigest ≠ "" → ¬ MayUse (listedFor py rows request) c.name

theorem admits_iff_activeIn {c : CapabilityContractRow} :
    (toolFilter (tenantOf request)).admits c = true ↔ ActiveIn (tenantOf request) "tool" c := by
  unfold ContractFilter.admits toolFilter ActiveIn
  by_cases htenant : tenantOf request = ""
  · simp [htenant]
  · simp [htenant, and_assoc]

/-- With no more than 500 active tools the query returns them all. -/
theorem mem_toolPage {c : CapabilityContractRow} (hfew : (toolsIn rows request).length ≤ 500)
    (hc : c ∈ toolsIn rows request) :
    c ∈ toolPage (orElse request.tenantId request.team) rows := by
  have hfilter : (capabilities rows).filter (toolFilter (tenantOf request)).admits
      = toolsIn rows request := by
    refine List.filter_congr (fun c _ => ?_)
    rw [Bool.eq_iff_iff, admits_iff_activeIn, decide_eq_true_iff]
  unfold toolPage selectContracts
  rw [List.drop_zero, List.take_of_length_le]
  · rw [List.mem_insertionSort]
    exact hfilter.symm ▸ hc
  · rw [List.length_insertionSort]
    exact hfilter.symm ▸ hfew

variable (rows request) in
theorem digestsIn_eq : digestsIn py sha256 rows request = capabilityDigests py sha256
    (agentPage request.agent (orElse request.tenantId request.team) rows)
    (toolPage (orElse request.tenantId request.team) rows) := rfl

/-- A tool with a digest has one on its page. -/
theorem exists_toolDigest {tools : List CapabilityContractRow} {c : CapabilityContractRow}
    (hc : c ∈ tools) (hne : c.contentDigest ≠ "") :
    ∃ digest, toolDigest tools c.name = some digest := by
  unfold toolDigest
  rw [← Option.isSome_iff_exists, Option.isSome_map, List.find?_isSome]
  refine ⟨c, ?_, decide_eq_true rfl⟩
  rw [List.mem_reverse, List.mem_filter]
  exact ⟨hc, decide_eq_true hne⟩

/-- The filter of the query for the agent. -/
theorem filter_agentFilter (hagent : strip request.agent ≠ "") :
    (capabilities rows).filter (agentFilter (strip request.agent) (tenantOf request)).admits
      = agentsIn rows request := by
  refine List.filter_congr (fun c _ => ?_)
  rw [Bool.eq_iff_iff, decide_eq_true_iff]
  unfold ContractFilter.admits agentFilter ActiveIn
  by_cases htenant : tenantOf request = ""
  · simp [htenant, hagent]
  · simp only [htenant, if_false, false_or, Option.all_some, Bool.and_eq_true, Bool.or_eq_true,
      decide_eq_true_eq, hagent]
    constructor
    · rintro ⟨⟨⟨hkind, hstatus⟩, hname⟩, hin⟩
      exact ⟨⟨hkind.resolve_left (by decide), hstatus, hin⟩, hname⟩
    · rintro ⟨⟨hkind, hstatus, hin⟩, hname⟩
      exact ⟨⟨⟨Or.inr hkind, hstatus⟩, hname⟩, hin⟩

/-- The first of the contracts that are ordered by their last update was updated last. -/
theorem newest_of_head? {l : List CapabilityContractRow} {c : CapabilityContractRow}
    (h : (l.insertionSort (fun a b => b.updatedAt ≤ a.updatedAt)).head? = some c) :
    c ∈ l ∧ ∀ c' ∈ l, c'.updatedAt ≤ c.updatedAt := by
  obtain ⟨rest, hlist⟩ := List.head?_eq_some_iff.mp h
  have hsorted := List.pairwise_insertionSort
    (fun a b : CapabilityContractRow => b.updatedAt ≤ a.updatedAt) l
  rw [hlist] at hsorted
  refine ⟨(List.mem_insertionSort _).mp (hlist ▸ List.mem_cons_self), fun c' hc' => ?_⟩
  have hmem := (List.mem_insertionSort (fun a b : CapabilityContractRow =>
    b.updatedAt ≤ a.updatedAt)).mpr hc'
  rw [hlist] at hmem
  rcases List.mem_cons.mp hmem with rfl | hrest
  · exact le_rfl
  · exact List.rel_of_pairwise_cons hsorted hrest

/-- **No digest of the agent**: it has no active contract with one. -/
theorem noAgentContract_of_empty (h : (digestsIn py sha256 rows request).1 = "") :
    NoAgentContract rows request := by
  intro hagent
  -- the page holds one contract, the first of those ordered by their last update
  have hpage : agentPage request.agent (orElse request.tenantId request.team) rows
      = ((agentsIn rows request).insertionSort (fun a b => b.updatedAt ≤ a.updatedAt)).head? := by
    unfold agentPage selectContracts
    rw [if_neg hagent, List.drop_zero, List.head?_take, if_neg one_ne_zero]
    exact congrArg (fun l => (l.insertionSort fun a b => b.updatedAt ≤ a.updatedAt).head?)
      (filter_agentFilter hagent)
  rw [digestsIn_eq] at h
  cases hhead : agentPage request.agent (orElse request.tenantId request.team) rows with
  | none =>
    rw [hpage, List.head?_eq_none_iff] at hhead
    exact Or.inl (List.length_eq_zero_iff.mp
      ((List.length_insertionSort _ _).symm.trans (congrArg List.length hhead)))
  | some c =>
    have hdigest : c.contentDigest = "" := by
      rw [hhead] at h
      exact h
    obtain ⟨hmem, hnewest⟩ := newest_of_head? (hpage.symm.trans hhead)
    exact Or.inr ⟨c, hmem, hdigest, hnewest⟩

/-- **No digest of the tools**: the agent may use no active tool with one. -/
theorem noToolContract_of_empty (h : (digestsIn py sha256 rows request).2 = "") :
    NoToolContract py rows request := by
  have hnone : ∀ c ∈ toolPage (orElse request.tenantId request.team) rows,
      c.contentDigest ≠ "" → ¬ MayUse (listedFor py rows request) c.name := by
    intro c hc hne huse
    obtain ⟨digest, hdigest⟩ := exists_toolDigest hc hne
    -- a tool with a digest that the agent may use would be selected
    have hselected : (c.name, .str digest) ∈ selectedTools (listedFor py rows request)
        (toolPage (orElse request.tenantId request.team) rows) :=
      mem_selectedTools.mpr ⟨huse, digest, hdigest, rfl⟩
    have hempty : selectedTools (listedFor py rows request)
        (toolPage (orElse request.tenantId request.team) rows) = [] := by
      by_contra hsome
      have htext : canonicalDigest py sha256 (selectedTools (listedFor py rows request)
          (toolPage (orElse request.tenantId request.team) rows)) = "" := by
        rw [digestsIn_eq] at h
        unfold capabilityDigests at h
        dsimp only at h
        unfold listedFor at hsome ⊢
        rw [if_neg hsome] at h
        exact h
      -- a digest begins with its prefix, so it is not empty
      have hlength := congrArg String.length htext
      unfold canonicalDigest at hlength
      rw [String.length_append] at hlength
      have hseven : "sha256:".length = 7 := rfl
      have hzero : "".length = 0 := rfl
      omega
    rw [hempty] at hselected
    cases hselected
  exact ⟨hnone, fun hfew c hc => hnone c (mem_toolPage hfew hc)⟩

end Active

/-! ## What a consumption says about the pins -/

/-- A pin is respected: the current digest is the pinned one, or there is none for the reason
given. -/
def Respects (current pinned : String) (absent : Prop) : Prop :=
  pinned ≠ "" → current = pinned ∨ current = "" ∧ absent

theorem respects_of_not_clash {current pinned : String} {absent : Prop}
    (h : ¬ clash current pinned = true) (habsent : current = "" → absent) :
    Respects current pinned absent := by
  intro hp
  by_contra hne
  obtain ⟨hne, hc⟩ := not_or.mp hne
  exact h (decide_eq_true ⟨fun hempty => hc ⟨hempty, habsent hempty⟩, hp, hne⟩)

/-- **What a consumption says about the pins.**  Whatever the state of the store and whichever
statements fail: when `approval_grants_allow` consumes an approval, each digest that its decision
pinned is the current one, or there is no current one: the agent has no active contract, or none
of the 500 active tools updated last may be used by it.  A contract without a digest counts as
none. -/
theorem pins_of_consumed (rows : List Row) (approvalId : String)
    (request : GovernanceEvaluateRequest) (policyDigest consumedEvent : String)
    (clock : ℕ → Instant) (fails : ℕ → Option PyError)
    (hbefore : ¬ Consumed approvalId rows)
    (hafter : Consumed approvalId ((approvalGrantsAllow py sha256 approvalId request policyDigest
      consumedEvent clock).run schema fails (.ofRows rows)).2.committed) :
    ∃ a d, findApproval rows approvalId = some a ∧ findDecision rows a.decisionId = some d ∧
      Respects (digestsIn py sha256 rows request).1 d.agentCapabilityDigest
        (NoAgentContract rows request) ∧
      Respects (digestsIn py sha256 rows request).2 d.toolsCapabilityDigest
        (NoToolContract py rows request) := by
  by_contra hnone
  have hnot : ∀ a d, ¬ Redeemable py sha256 rows approvalId request policyDigest a d := by
    intro a d h
    obtain ⟨hagent, htools⟩ := of_decide_eq_true h.pinned
    exact hnone ⟨a, d, h.approval, h.decision,
      respects_of_not_clash hagent (noAgentContract_of_empty py sha256),
      respects_of_not_clash htools (noToolContract_of_empty py sha256)⟩
  have hkeeps : (approvalGrantsAllow py sha256 approvalId request policyDigest consumedEvent
      clock).Keeps schema (Untouched rows approvalId) _ := keeps_approvalGrantsAllow clock hnot
  obtain ⟨-, hleft, -⟩ := hkeeps.run fails (σ := .ofRows rows) .refl .refl
  exact hbefore (consumed_of_untouched hleft hafter)

/-! ## A retired contract -/

/-- The contract of an agent, as it is registered. -/
def agentContract : CapabilityContractRow where
  contractId := "c"
  kind := "agent"
  name := "ops-agent"
  tenantId := "platform"
  status := .draft
  version := "v1"
  contentDigest := "sha256:agent1"
  capabilities := []
  source := "api"
  createdAt := Timestamp.isoformat 0
  updatedAt := Timestamp.isoformat 0
  activatedAt := none

/-- A request of an agent. -/
def agentRequest : GovernanceEvaluateRequest := { agent := "ops-agent", subject := "alice" }

/-- A response that asks for approval. -/
def askingResponse : GovernanceEvaluateResponse where
  finalVerdict := .approvalRequired
  policyPack := "default"
  reasons := ["needs approval"]
  flow := ["request", "final_verdict"]
  stages := []
  policyDigest := some "policy-1"

/-- The ids of an evaluation. -/
def draws : Draws where
  requestId := "r"
  decisionId := "d"
  approvalId := "a"
  consumedEvent := "e1"
  createdEvent := "e2"
  recordedEvent := "e3"

/-- The digest of the one request of the histories. -/
def fixedDigest (_ : String) : String := "sha256:r"

/-- The contract is activated, a request is evaluated and approved under it, and the contract
is activated or retired once more. -/
def history (last : ContractStatus) : StoreM Unit := do
  let _ ← upsertCapabilityContract agentContract
  let _ ← setCapabilityContractStatus "c" .active 0
  let _ ← persistEvaluation .ascii fixedDigest askingResponse agentRequest draws 3600 (fun _ => 0)
  let _ ← resolveApproval .ascii "a" .approved "bob" "" none true (fun _ => 1)
  let _ ← setCapabilityContractStatus "c" last 2
  return ()

/-- The store after such a history. -/
def storeAfter (last : ContractStatus) : List Row :=
  ((history last).run schema (fun _ => none) (.ofRows [])).2.committed

/-- The redemption after such a history. -/
def redemptionAfter (last : ContractStatus) : Except PyError Bool × Session Row :=
  (approvalGrantsAllow .ascii fixedDigest "a" agentRequest "policy-1" "e1" (fun _ => 3)).run schema
    (fun _ => none) (.ofRows (storeAfter last))

/-- The status of the approval of the histories. -/
def approvalStatus (rows : List Row) : Option ApprovalStatus :=
  (findApproval rows "a").map ApprovalRow.status

theorem consumed_iff (rows : List Row) :
    Consumed "a" rows ↔ approvalStatus rows = some .consumed := by
  unfold Consumed approvalStatus
  rw [Option.map_eq_some_iff]

instance (rows : List Row) : Decidable (Consumed "a" rows) :=
  decidable_of_iff _ (consumed_iff rows).symm

/-- The contract stays active. -/
theorem pins_of_consumed_active :
    ∃ a d, findApproval (storeAfter .active) "a" = some a ∧
      findDecision (storeAfter .active) a.decisionId = some d ∧
      Respects (digestsIn .ascii fixedDigest (storeAfter .active) agentRequest).1
        d.agentCapabilityDigest (NoAgentContract (storeAfter .active) agentRequest) ∧
      Respects (digestsIn .ascii fixedDigest (storeAfter .active) agentRequest).2
        d.toolsCapabilityDigest (NoToolContract .ascii (storeAfter .active) agentRequest) :=
  pins_of_consumed .ascii fixedDigest (storeAfter .active) "a" agentRequest "policy-1" "e1"
    (fun _ => 3) (fun _ => none) (by decide +kernel) (by decide +kernel)

/-- After the contract is retired, the pinned digest is no longer the current one, and the
approval is consumed all the same. -/
theorem retired_contract_is_redeemed :
    (findDecision (storeAfter .retired) "d").map DecisionRow.agentCapabilityDigest
      = some "sha256:agent1" ∧
    (digestsIn .ascii fixedDigest (storeAfter .retired) agentRequest).1 = "" ∧
    ¬ Consumed "a" (storeAfter .retired) ∧
    (redemptionAfter .retired).1.toOption = some true ∧
    Consumed "a" (redemptionAfter .retired).2.committed := by
  decide +kernel

end ControlPlane.CapabilityPinning

/-
# The governance pipeline (`app/governance_service.py`)

`evaluate_governance_request` runs the stages of a bundle on one request and
folds their results into a verdict.  The fold is a chain of rules tried in order;
since the chain lists its blocking rules first, it computes the join of the rules
that fire, and the verdict is decided by two questions, whether some stage blocks
and whether some stage asks (`verdict_block_iff`, `verdict_allow_iff`).
-/
import ControlPlane.Precedence
import ControlPlane.Governance.Quota
import ControlPlane.Governance.Cost
import ControlPlane.Governance.Registry
import ControlPlane.Governance.Agents
import ControlPlane.Governance.Sovereign
import ControlPlane.Governance.Approval
import ControlPlane.Governance.PromptSecurity

open Precedence

namespace ControlPlane

/-! ## The fold of the stage results -/

/-- The results of all stages of one evaluation. -/
structure StageResults where
  packPre : PolicyPack.PackResult
  packPost : PolicyPack.PackResult
  prompt : PromptSecurity.PromptResult
  agent : Agents.AgentResult
  quota : StageResult
  registry : Registry.RegistryResult
  sovereign : Sovereign.SovereignResult
  cost : StageResult
  risk : Risk.RiskResult
  approval : StageResult
  deriving DecidableEq, Repr

/-- `final_verdict`: the first stage that decides, with its reasons. -/
def finalVerdict (s : StageResults) : Verdict × List String :=
  if s.packPre.decision = .block then (.block, s.packPre.reasons)
  else if s.prompt.decision = .block then (.block, s.prompt.reasons)
  else if s.agent.forbidden then (.block, s.agent.reasons)
  else if s.quota.decision = .block then (.block, s.quota.reasons)
  else if s.registry.forbidden then (.block, s.registry.reasons)
  else if s.sovereign.forbidden then (.block, s.sovereign.reasons)
  else if s.cost.decision = .block then (.block, ["cost governance blocked the request"])
  else if s.approval.decision = .block then (.block, ["approval workflow blocked the request"])
  else if s.quota.decision = .approvalRequired then (.approvalRequired, s.quota.reasons)
  else if s.packPost.decision = .approvalRequired then (.approvalRequired, s.packPost.reasons)
  else if s.risk.level = .critical then
    (.approvalRequired, ["critical risk score requires human approval"])
  else if s.approval.decision = .approvalRequired then
    (.approvalRequired, ["approval workflow requires human review"])
  else if s.cost.decision = .warn then
    (.approvalRequired, ["cost governance warning requires review"])
  else (.allow, ["all governance stages allow the request"])

namespace StageResults

variable (s : StageResults)

/-- The rules `final_verdict` tries, in its order. -/
def rules : List (Rule Verdict (List String)) :=
  [⟨s.packPre.decision = .block, .block, s.packPre.reasons⟩,
    ⟨s.prompt.decision = .block, .block, s.prompt.reasons⟩,
    ⟨s.agent.forbidden, .block, s.agent.reasons⟩,
    ⟨s.quota.decision = .block, .block, s.quota.reasons⟩,
    ⟨s.registry.forbidden, .block, s.registry.reasons⟩,
    ⟨s.sovereign.forbidden, .block, s.sovereign.reasons⟩,
    ⟨s.cost.decision = .block, .block, ["cost governance blocked the request"]⟩,
    ⟨s.approval.decision = .block, .block, ["approval workflow blocked the request"]⟩,
    ⟨s.quota.decision = .approvalRequired, .approvalRequired, s.quota.reasons⟩,
    ⟨s.packPost.decision = .approvalRequired, .approvalRequired, s.packPost.reasons⟩,
    ⟨s.risk.level = .critical, .approvalRequired,
      ["critical risk score requires human approval"]⟩,
    ⟨s.approval.decision = .approvalRequired, .approvalRequired,
      ["approval workflow requires human review"]⟩,
    ⟨s.cost.decision = .warn, .approvalRequired, ["cost governance warning requires review"]⟩]

/-- Some stage blocks the request. -/
def Blocked : Prop :=
  s.packPre.decision = .block ∨ s.prompt.decision = .block ∨ s.agent.forbidden = true
    ∨ s.quota.decision = .block ∨ s.registry.forbidden = true ∨ s.sovereign.forbidden = true
    ∨ s.cost.decision = .block ∨ s.approval.decision = .block

/-- Some stage asks for approval. -/
def Asked : Prop :=
  s.quota.decision = .approvalRequired ∨ s.packPost.decision = .approvalRequired
    ∨ s.risk.level = .critical ∨ s.approval.decision = .approvalRequired
    ∨ s.cost.decision = .warn

instance : Decidable s.Blocked :=
  inferInstanceAs (Decidable (_ ∨ _ ∨ _ ∨ _ ∨ _ ∨ _ ∨ _ ∨ _))

instance : Decidable s.Asked := inferInstanceAs (Decidable (_ ∨ _ ∨ _ ∨ _ ∨ _))

theorem finalVerdict_eq_firstMatch :
    finalVerdict s = firstMatch s.rules (⊥, ["all governance stages allow the request"]) := by
  simp only [finalVerdict, rules, firstMatch, decide_eq_true_eq, Verdict.bot_eq]

theorem rules_sorted : s.rules.Pairwise (fun r r' => r'.verdict ≤ r.verdict) := by
  simp [rules]

/-- **The chain of the source computes the join of the rules that fire.** -/
theorem finalVerdict_fst : (finalVerdict s).1 = joined s.rules := by
  rw [finalVerdict_eq_firstMatch]
  exact firstMatch_fst s.rules _ s.rules_sorted

theorem finalVerdict_block_iff : (finalVerdict s).1 = .block ↔ s.Blocked := by
  rw [← Verdict.block_le_iff, finalVerdict_fst, le_joined_iff _ (by decide)]
  simp [rules, Blocked]

theorem finalVerdict_ne_allow_iff : (finalVerdict s).1 ≠ .allow ↔ s.Blocked ∨ s.Asked := by
  rw [← Verdict.approvalRequired_le_iff, finalVerdict_fst, le_joined_iff _ (by decide)]
  simp only [rules, Blocked, Asked, List.exists_mem_cons_iff, List.not_mem_nil, false_and,
    exists_false, or_false, decide_eq_true_eq, Verdict.le_block, le_refl, and_true]
  tauto

end StageResults

/-! ## Running the stages -/

/-- `QUOTA_BACKEND_UNAVAILABLE_ALLOWED_REASON`. -/
def quotaBackendUnavailableAllowedReason : String := "quota_backend_unavailable_allowed"

/-- The telemetry says that the live counters could not be read. -/
def quotaUnavailable (telemetry : Option GovernanceTelemetryStage) : Bool :=
  telemetry.elim false (fun t => t.quotaSource = .unavailable)

/-- The quota result after `QUOTA_ON_UNAVAILABLE` has been applied. -/
def overrideQuota (policy : QuotaOnUnavailable) (quota : StageResult) : StageResult :=
  match policy with
  | .approvalRequired =>
    { decision := .approvalRequired, reasons := ["quota state unavailable; approval required"] }
  | .block => { decision := .block, reasons := ["quota state unavailable; request blocked"] }
  | .allow =>
    { decision := .allow,
      reasons := if quotaBackendUnavailableAllowedReason ∈ quota.reasons then quota.reasons
        else quota.reasons ++ [quotaBackendUnavailableAllowedReason] }

/-- The results reported when the pack has already blocked the request. -/
def skippedStages (row : PipelineRow) (packPre : PolicyPack.PackResult) : StageResults where
  packPre := packPre
  packPost := packPre
  prompt := { decision := .allow, reasons := ["skipped after policy pack block"], findings := [] }
  agent := { knownAgent := none, forbidden := false, reasons := [], tools := [] }
  quota := { decision := .allow, reasons := ["skipped after policy pack block"] }
  registry := { knownModel := none, forbidden := false, reasons := [], riskTier := none }
  sovereign := { region := row.region, forbidden := false, reasons := [],
                 externalProvider := false }
  cost := { decision := .allow, reasons := [] }
  risk := { score := 0, level := .low, factors := [] }
  approval := { decision := .allow, reasons := [] }

section Evaluate

variable (py : PyRuntime) (env : EngineEnv)

/-- The keys of the model registry. -/
def registryModels (config : PolicyConfig) (model : String) : Bool := (config.registry model).isSome

/-- The stages behind the policy pack, for a pack that did not block. -/
def laterStages (config : PolicyConfig) (telemetry : Option GovernanceTelemetryStage)
    (row : PipelineRow) (packPre : PolicyPack.PackResult) : Except PyError StageResults := do
  let prompt := PromptSecurity.evaluatePromptSecurity py row
  let agent ← Agents.evaluateAgentPolicy py row "" config.agents config.tools
  let ownQuota ← Quota.evaluateRequest py row config.quotaPolicies packPre.quotaMultiplier
  let quota := if quotaUnavailable telemetry then overrideQuota env.quotaOnUnavailable ownQuota
    else ownQuota
  let registry ← Registry.evaluateModelPolicy py env row config.registry
  let sovereign := Sovereign.evaluateResidency py row config.residency (config.registry row.model)
  let cost ← Cost.evaluateRow py row config.costPolicies
  let risk ← Risk.evaluateRequest py row config.riskRules config.registry
  let approval := Approval.evaluateRequest
    (Approval.buildApprovalRequest row cost.decision risk.level) config.registry
  let packPost ← PolicyPack.evaluatePack py row config.packs (registryModels config)
    (some risk.level)
  return { packPre := packPre, packPost := packPost, prompt := prompt, agent := agent,
           quota := quota, registry := registry, sovereign := sovereign, cost := cost,
           risk := risk, approval := approval }

/-- All stages of a request. -/
def evaluateStages (config : PolicyConfig) (telemetry : Option GovernanceTelemetryStage)
    (row : PipelineRow) : Except PyError StageResults := do
  let packPre ← PolicyPack.evaluatePack py row config.packs (registryModels config) none
  if packPre.decision = .block then return skippedStages row packPre
  laterStages py env config telemetry row packPre

/-- The verdict with its reasons: a marker stays on an explicit fail-open, and a
telemetry block overrides everything. -/
def judge (telemetry : Option GovernanceTelemetryStage) (s : StageResults) :
    Verdict × List String :=
  let (verdict, reasons) := finalVerdict s
  let marker := quotaBackendUnavailableAllowedReason
  let reasons := if verdict = .allow ∧ marker ∈ s.quota.reasons ∧ marker ∉ reasons
    then marker :: reasons else reasons
  let blockReasons := telemetry.elim [] GovernanceTelemetryStage.blockReasons
  if blockReasons ≠ [] then (.block, blockReasons ++ reasons) else (verdict, reasons)

/-! ## The response -/

/-- `GovernanceStageResult`. -/
structure GovernanceStageResult where
  decision : Option StageDecision := none
  reasons : List String := []
  score : Option ℤ := none
  level : Option RiskLevel := none
  pack : Option String := none
  factors : List Risk.Factor := []
  riskTier : Option Scalar := none
  knownModel : Option Bool := none
  deriving DecidableEq, Repr

/-- `GovernanceEvaluateResponse`. -/
structure GovernanceEvaluateResponse where
  finalVerdict : Verdict
  policyPack : String
  reasons : List String
  flow : List String
  stages : List (String × GovernanceStageResult)
  telemetry : Option GovernanceTelemetryStage := none
  decisionId : Option String := none
  policyBundleId : Option String := none
  policyDigest : Option String := none
  agentCapabilityDigest : Option String := none
  toolsCapabilityDigest : Option String := none
  approvalId : Option String := none
  deriving DecidableEq, Repr

/-- `x or None` on strings. -/
def orNone (x : String) : Option String := if x = "" then none else some x

/-- A forbidding stage is reported as a block. -/
def forbiddenDecision (forbidden : Bool) : StageDecision := if forbidden then .block else .allow

/-- The policy-pack stage reports the second run when it asked for approval. -/
def packStage (s : StageResults) : GovernanceStageResult :=
  if s.packPre.decision ≠ .block ∧ s.packPost.decision = .approvalRequired then
    { decision := some .approvalRequired, reasons := s.packPost.reasons,
      pack := some s.packPre.pack }
  else
    { decision := some s.packPre.decision, reasons := s.packPre.reasons,
      pack := some s.packPre.pack }

/-- What a response reports of each stage. -/
def stageReport (s : StageResults) : List (String × GovernanceStageResult) :=
  [("policy_pack", packStage s),
    ("prompt_security", { decision := some s.prompt.decision, reasons := s.prompt.reasons }),
    ("agent", { decision := some (forbiddenDecision s.agent.forbidden),
                reasons := s.agent.reasons, knownModel := s.agent.knownAgent }),
    ("quota", { decision := some s.quota.decision, reasons := s.quota.reasons }),
    ("registry", { decision := some (forbiddenDecision s.registry.forbidden),
                   reasons := s.registry.reasons, riskTier := s.registry.riskTier,
                   knownModel := s.registry.knownModel }),
    ("sovereign", { decision := some (forbiddenDecision s.sovereign.forbidden),
                    reasons := s.sovereign.reasons, pack := some s.sovereign.region }),
    ("cost", { decision := some s.cost.decision, reasons := s.cost.reasons }),
    ("risk", { score := some s.risk.score, level := some s.risk.level,
               factors := s.risk.factors }),
    ("approval", { decision := some s.approval.decision, reasons := s.approval.reasons })]

/-- The flow that a response reports. -/
def evaluationFlow : List String :=
  ["request", "live_inputs", "policy_pack", "prompt_security", "agent_registry", "tenant_quota",
    "model_registry", "sovereign_ai", "cost_decision", "risk_score", "approval_decision",
    "policy_pack_approval", "final_verdict"]

/-- The part of an evaluation that only reads the bundle: the stages of a valid bundle. -/
def runBundle (bundle : PolicyBundle) (telemetry : Option GovernanceTelemetryStage)
    (payload : GovernanceEvaluateRequest) : Except PyError StageResults :=
  match bundle.config with
  | .error e => .error (.runtimeError ("policy bundle is not valid: " ++ orElse e "unknown error"))
  | .ok config => evaluateStages py env config telemetry (toPipelineRow payload)

/-- The response for the stage results, with the capability digests read afterwards. -/
def respond (bundle : PolicyBundle) (telemetry : Option GovernanceTelemetryStage)
    (s : StageResults) (digests : String × String) : GovernanceEvaluateResponse where
  finalVerdict := (judge telemetry s).1
  policyPack := s.packPre.pack
  reasons := (judge telemetry s).2
  flow := evaluationFlow
  stages := stageReport s
  telemetry := telemetry
  policyBundleId := some bundle.bundleId
  policyDigest := some bundle.contentDigest
  agentCapabilityDigest := orNone digests.1
  toolsCapabilityDigest := orNone digests.2

/-- `evaluate_governance_request` with an explicit bundle; `capabilities` is the
store's answer for the agent and the tenant of the request. -/
def evaluateGovernanceRequest (bundle : PolicyBundle)
    (telemetry : Option GovernanceTelemetryStage)
    (capabilities : String → String → Except PyError (String × String))
    (payload : GovernanceEvaluateRequest) : Except PyError GovernanceEvaluateResponse := do
  let s ← runBundle py env bundle telemetry payload
  let digests ← capabilities payload.agent (orElse payload.tenantId payload.team)
  return respond bundle telemetry s digests

/-! ## What the pipeline decides -/

/-- The telemetry carries block reasons. -/
def TelemetryBlocks (telemetry : Option GovernanceTelemetryStage) : Prop :=
  telemetry.elim [] GovernanceTelemetryStage.blockReasons ≠ []

instance (telemetry : Option GovernanceTelemetryStage) : Decidable (TelemetryBlocks telemetry) :=
  inferInstanceAs (Decidable (_ ≠ _))

theorem judge_fst (telemetry : Option GovernanceTelemetryStage) (s : StageResults) :
    (judge telemetry s).1 = if TelemetryBlocks telemetry then .block else (finalVerdict s).1 := by
  rcases hf : finalVerdict s with ⟨verdict, reasons⟩
  unfold judge
  simp only [hf]
  rw [apply_ite Prod.fst]
  exact if_congr Iff.rfl rfl rfl

/-- **When the pipeline blocks**: the telemetry does or some stage does. -/
theorem judge_block_iff (telemetry : Option GovernanceTelemetryStage) (s : StageResults) :
    (judge telemetry s).1 = .block ↔ TelemetryBlocks telemetry ∨ s.Blocked := by
  rw [judge_fst, ← s.finalVerdict_block_iff]
  by_cases h : TelemetryBlocks telemetry <;> simp [h]

/-- **When the pipeline does not simply allow**: something blocks or asks. -/
theorem judge_ne_allow_iff (telemetry : Option GovernanceTelemetryStage) (s : StageResults) :
    (judge telemetry s).1 ≠ .allow ↔ TelemetryBlocks telemetry ∨ s.Blocked ∨ s.Asked := by
  rw [judge_fst, ← s.finalVerdict_ne_allow_iff]
  by_cases h : TelemetryBlocks telemetry <;> simp [h]

/-- The verdicts of two evaluations compare as their blocks and their asks do. -/
theorem judge_le_iff (t₁ t₂ : Option GovernanceTelemetryStage) (s₁ s₂ : StageResults) :
    (judge t₁ s₁).1 ≤ (judge t₂ s₂).1 ↔
      (TelemetryBlocks t₁ ∨ s₁.Blocked → TelemetryBlocks t₂ ∨ s₂.Blocked) ∧
      (TelemetryBlocks t₁ ∨ s₁.Blocked ∨ s₁.Asked →
        TelemetryBlocks t₂ ∨ s₂.Blocked ∨ s₂.Asked) := by
  rw [Verdict.le_iff_forall, judge_block_iff, judge_block_iff, judge_ne_allow_iff,
    judge_ne_allow_iff]

/-- A successful evaluation has a valid bundle and stage results it judges. -/
theorem evaluateGovernanceRequest_ok {bundle : PolicyBundle}
    {telemetry : Option GovernanceTelemetryStage}
    {capabilities : String → String → Except PyError (String × String)}
    {payload : GovernanceEvaluateRequest} {res : GovernanceEvaluateResponse}
    (h : evaluateGovernanceRequest py env bundle telemetry capabilities payload = .ok res) :
    ∃ config s, bundle.config = .ok config ∧
      evaluateStages py env config telemetry (toPipelineRow payload) = .ok s ∧
      res.finalVerdict = (judge telemetry s).1 := by
  unfold evaluateGovernanceRequest runBundle at h
  rw [bind_eq_ok] at h
  obtain ⟨s, hs, h⟩ := h
  rw [bind_eq_ok] at h
  obtain ⟨digests, -, h⟩ := h
  rw [pure_eq_ok] at h
  subst h
  cases hc : bundle.config with
  | error e =>
    rw [hc] at hs
    cases hs
  | ok config =>
    rw [hc] at hs
    exact ⟨config, s, rfl, hs, rfl⟩

/-- The results of the stages behind the pack, one equation a stage. -/
structure LaterStagesOk (config : PolicyConfig) (telemetry : Option GovernanceTelemetryStage)
    (row : PipelineRow) (s : StageResults) : Prop where
  prompt : s.prompt = PromptSecurity.evaluatePromptSecurity py row
  agent : Agents.evaluateAgentPolicy py row "" config.agents config.tools = .ok s.agent
  quota : ∃ own, Quota.evaluateRequest py row config.quotaPolicies s.packPre.quotaMultiplier
      = .ok own ∧
    s.quota = if quotaUnavailable telemetry then overrideQuota env.quotaOnUnavailable own else own
  registry : Registry.evaluateModelPolicy py env row config.registry = .ok s.registry
  sovereign : s.sovereign
    = Sovereign.evaluateResidency py row config.residency (config.registry row.model)
  cost : Cost.evaluateRow py row config.costPolicies = .ok s.cost
  risk : Risk.evaluateRequest py row config.riskRules config.registry = .ok s.risk
  approval : s.approval = Approval.evaluateRequest
    (Approval.buildApprovalRequest row s.cost.decision s.risk.level) config.registry
  packPost : PolicyPack.evaluatePack py row config.packs (registryModels config)
    (some s.risk.level) = .ok s.packPost

/-- **Inversion of the pipeline**: the pack runs first, and then either it blocks and
the rest is skipped, or every other stage ran. -/
theorem evaluateStages_ok {config : PolicyConfig} {telemetry : Option GovernanceTelemetryStage}
    {row : PipelineRow} {s : StageResults}
    (h : evaluateStages py env config telemetry row = .ok s) :
    PolicyPack.evaluatePack py row config.packs (registryModels config) none = .ok s.packPre ∧
    ((s.packPre.decision = .block ∧ s = skippedStages row s.packPre) ∨
      (s.packPre.decision ≠ .block ∧ LaterStagesOk py env config telemetry row s)) := by
  unfold evaluateStages at h
  rw [bind_eq_ok] at h
  obtain ⟨packPre, hpre, h⟩ := h
  by_cases hb : packPre.decision = .block
  · rw [if_pos hb, pure_eq_ok] at h
    subst h
    exact ⟨hpre, Or.inl ⟨hb, rfl⟩⟩
  · rw [if_neg hb] at h
    unfold laterStages at h
    simp only [bind_eq_ok, pure_eq_ok] at h
    obtain ⟨agent, hagent, quota, hquota, registry, hregistry, cost, hcost, risk, hrisk,
      packPost, hpost, rfl⟩ := h
    refine ⟨hpre, Or.inr ⟨hb, ?_⟩⟩
    exact
      { prompt := rfl, agent := hagent, quota := ⟨quota, hquota, rfl⟩, registry := hregistry,
        sovereign := rfl, cost := hcost, risk := hrisk, approval := rfl, packPost := hpost }

theorem laterStagesOk_of_not_blocked {config : PolicyConfig}
    {telemetry : Option GovernanceTelemetryStage} {row : PipelineRow} {s : StageResults}
    (h : evaluateStages py env config telemetry row = .ok s) (hb : ¬ s.Blocked) :
    LaterStagesOk py env config telemetry row s :=
  ((evaluateStages_ok py env h).2.resolve_left (fun hpack => hb (Or.inl hpack.1))).2

/-! ## The grounds for a block, read off the inputs -/

/-- The prompt scanner blocks the row. -/
def PromptBlocks (row : PipelineRow) : Prop :=
  (PromptSecurity.evaluatePromptSecurity py row).decision = .block

/-- The quota result the pipeline uses for a row. -/
def quotaResult (config : PolicyConfig) (telemetry : Option GovernanceTelemetryStage)
    (row : PipelineRow) : Except PyError StageResult := do
  let packName := PolicyPack.resolvePackName py row config.packs
  let multiplier ← PolicyPack.packMultiplier py config.packs packName
  let own ← Quota.evaluateRequest py row config.quotaPolicies multiplier
  return if quotaUnavailable telemetry then overrideQuota env.quotaOnUnavailable own else own

/-- A rule of an engine other than the prompt scanner blocks the row. -/
def OtherRulesBlock (config : PolicyConfig) (telemetry : Option GovernanceTelemetryStage)
    (row : PipelineRow) : Prop :=
  PolicyPack.Blocks py row config.packs (registryModels config)
    ∨ Yields (Agents.evaluateAgentPolicy py row "" config.agents config.tools)
        (fun agent => agent.forbidden = true)
    ∨ Yields (quotaResult py env config telemetry row) (fun quota => quota.decision = .block)
    ∨ Yields (Registry.evaluateModelPolicy py env row config.registry)
        (fun registry => registry.forbidden = true)
    ∨ (Sovereign.evaluateResidency py row config.residency
        (config.registry row.model)).forbidden = true
    ∨ Yields (Cost.evaluateRow py row config.costPolicies) (fun cost =>
        cost.decision = .block ∨ Approval.blockReasons
          (Approval.buildApprovalRequest row cost.decision .low) config.registry ≠ [])

theorem quotaResult_eq {config : PolicyConfig} {telemetry : Option GovernanceTelemetryStage}
    {row : PipelineRow} {s : StageResults}
    (hpre : PolicyPack.evaluatePack py row config.packs (registryModels config) none
      = .ok s.packPre)
    (L : LaterStagesOk py env config telemetry row s) :
    quotaResult py env config telemetry row = .ok s.quota := by
  obtain ⟨own, hown, hq⟩ := L.quota
  unfold quotaResult
  rw [bind_eq_ok]
  refine ⟨_, PolicyPack.evaluatePack_multiplier py hpre, ?_⟩
  rw [bind_eq_ok]
  exact ⟨own, hown, pure_eq_ok.mpr hq.symm⟩

/-- **Some stage blocks exactly when the prompt scanner or a rule of another engine does.**
Behind a pack that blocks, the stages that were skipped make no difference. -/
theorem blocked_iff_rulesBlock {config : PolicyConfig}
    {telemetry : Option GovernanceTelemetryStage} {row : PipelineRow} {s : StageResults}
    (h : evaluateStages py env config telemetry row = .ok s) :
    s.Blocked ↔ PromptBlocks py row ∨ OtherRulesBlock py env config telemetry row := by
  obtain ⟨hpre, hcase⟩ := evaluateStages_ok py env h
  have hdecision := (PolicyPack.evaluatePack_decision py hpre).1
  by_cases hpack : s.packPre.decision = .block
  · exact iff_of_true (Or.inl hpack) (Or.inr (Or.inl (hdecision.mp hpack)))
  have L := (hcase.resolve_left (fun hb => hpack hb.1)).2
  have happroval : s.approval.decision = .block ↔ Approval.blockReasons
      (Approval.buildApprovalRequest row s.cost.decision .low) config.registry ≠ [] := by
    rw [L.approval, Approval.evaluateRequest, ruling_block_iff (by decide)]
    exact Iff.rfl
  unfold OtherRulesBlock PromptBlocks StageResults.Blocked
  rw [yields_iff L.agent, yields_iff (quotaResult_eq py env hpre L), yields_iff L.registry,
    yields_iff L.cost, ← L.sovereign, ← happroval, ← L.prompt, ← hdecision]
  simp only [hpack, false_or]

/-- A rule of some engine asks for approval of the row. -/
def RulesAsk (config : PolicyConfig) (telemetry : Option GovernanceTelemetryStage)
    (row : PipelineRow) : Prop :=
  (quotaUnavailable telemetry = true ∧ env.quotaOnUnavailable = .approvalRequired)
    ∨ Yields (Cost.evaluateRow py row config.costPolicies) (fun cost =>
        Yields (Risk.evaluateRequest py row config.riskRules config.registry) (fun risk =>
          PolicyPack.Asks py row config.packs (some risk.level) ∨ Approval.approvalReasons
            (Approval.buildApprovalRequest row cost.decision risk.level) ≠ []))

theorem quota_asks_iff {config : PolicyConfig} {telemetry : Option GovernanceTelemetryStage}
    {row : PipelineRow} {s : StageResults} (L : LaterStagesOk py env config telemetry row s) :
    s.quota.decision = .approvalRequired ↔
      quotaUnavailable telemetry = true ∧ env.quotaOnUnavailable = .approvalRequired := by
  obtain ⟨own, hown, hq⟩ := L.quota
  rw [hq]
  by_cases hu : quotaUnavailable telemetry = true
  · rw [if_pos hu]
    cases env.quotaOnUnavailable <;> simp [overrideQuota, hu]
  · rw [if_neg hu]
    rcases Quota.evaluateRequest_block_or_allow py hown with hd | hd <;> simp [hd, hu]

/-- **When nothing blocks, some stage asks exactly when a rule asks.**  A critical risk and
a cost warning are already grounds of the approval engine. -/
theorem asked_iff_rulesAsk {config : PolicyConfig}
    {telemetry : Option GovernanceTelemetryStage} {row : PipelineRow} {s : StageResults}
    (h : evaluateStages py env config telemetry row = .ok s) (hb : ¬ s.Blocked) :
    s.Asked ↔ RulesAsk py env config telemetry row := by
  have hpre := (evaluateStages_ok py env h).1
  have hpack : s.packPre.decision ≠ .block := fun hp => hb (Or.inl hp)
  have L := laterStagesOk_of_not_blocked py env h hb
  have hpost : s.packPost.decision = .approvalRequired ↔
      PolicyPack.Asks py row config.packs (some s.risk.level) := by
    have hblocks := (PolicyPack.evaluatePack_decision py hpre).1
    rw [(PolicyPack.evaluatePack_decision py L.packPost).2, ← hblocks]
    exact and_iff_right hpack
  have happroval : s.approval.decision = .approvalRequired ↔ Approval.approvalReasons
      (Approval.buildApprovalRequest row s.cost.decision s.risk.level) ≠ [] := by
    have hnb : s.approval.decision ≠ .block := by
      unfold StageResults.Blocked at hb
      tauto
    rw [L.approval, Approval.evaluateRequest] at hnb ⊢
    rw [ne_eq, ruling_block_iff (by decide), not_not] at hnb
    rw [ruling_milder_iff (by decide) (by decide)]
    exact and_iff_right hnb
  have hcritical : s.risk.level = .critical → s.approval.decision = .approvalRequired := by
    rw [happroval]
    exact Approval.approvalReasons_of_critical row _ _
  have hwarn : s.cost.decision = .warn → s.approval.decision = .approvalRequired := by
    rw [happroval]
    exact Approval.approvalReasons_of_warn row _ _
  unfold RulesAsk StageResults.Asked
  rw [yields_iff L.cost, yields_iff L.risk, ← hpost, ← happroval, quota_asks_iff py env L]
  constructor
  · rintro (h | h | h | h | h)
    · exact Or.inl h
    · exact Or.inr (Or.inl h)
    · exact Or.inr (Or.inr (hcritical h))
    · exact Or.inr (Or.inr h)
    · exact Or.inr (Or.inr (hwarn h))
  · rintro (h | h | h)
    · exact Or.inl h
    · exact Or.inr (Or.inl h)
    · exact Or.inr (Or.inr (Or.inr (Or.inl h)))

end Evaluate

/-! ## The shipped bundle

The entries of the shipped configuration files that concrete runs read. -/

/-- `policy-packs/packs.yaml`. -/
def shippedPacks : PackConfig where
  defaultPack := "development"
  environmentMap := Dict.ofList [("production", "production"), ("development", "development")]
  packs := Dict.ofList [
    ("production", Dict.ofList [
      ("require_environment", .str "production"), ("block_unknown_models", .bool true),
      ("block_external_providers", .bool true), ("block_sensitive_data", .bool false),
      ("quota_multiplier", .float 1), ("min_risk_for_approval", .str "medium")]),
    ("development", Dict.ofList [
      ("block_unknown_models", .bool false), ("block_external_providers", .bool false),
      ("block_sensitive_data", .bool false), ("quota_multiplier", .float 2),
      ("min_risk_for_approval", .str "high")]),
    ("eu-sovereign", Dict.ofList [
      ("require_region", .str "eu-central"), ("block_unknown_models", .bool true),
      ("block_external_providers", .bool true), ("block_sensitive_data", .bool false),
      ("quota_multiplier", .float 1), ("min_risk_for_approval", .str "medium")])]

/-- `cost/policies.yaml`. -/
def shippedCostPolicies : CostPolicies where
  «global» := Dict.ofList [
    ("max_model_hourly_cost_usd", .float 1), ("warn_model_hourly_cost_usd", .float (3 / 4)),
    ("max_forecast_monthly_cost_usd", .float 2500),
    ("warn_forecast_monthly_cost_usd", .float 1800)]
  teams := Dict.ofList [
    ("platform", Dict.ofList [
      ("monthly_budget_usd", .float 600), ("warn_at_percent", .int 80),
      ("allowed_models", .list ["llama3.1:8b", "qwen2.5:14b", "gemma-3-12b"])]),
    ("mlops", Dict.ofList [
      ("monthly_budget_usd", .float 1200), ("warn_at_percent", .int 85),
      ("allowed_models", .list ["gpt-4.1-mini", "claude-3.7-sonnet", "qwen2.5:14b"])])]

/-- `risk/rules.yaml`. -/
def shippedRiskRules : RiskRules where
  scoreWeights := Dict.ofList [
    ("external_provider", .int 18), ("production_namespace", .int 20),
    ("high_token_volume", .int 12), ("high_cost_forecast", .int 16), ("sensitive_data", .int 18),
    ("tool_access", .int 10), ("write_permission", .int 14), ("deploy_permission", .int 16),
    ("missing_owner", .int 25)]
  thresholds := Dict.ofList [
    ("high_token_volume", .int 50000), ("high_cost_forecast_usd", .float 1500),
    ("medium_min", .int 25), ("high_min", .int 50), ("critical_min", .int 75)]
  externalProviders := ["anthropic", "openai", "external"]
  productionNamespaces := ["ai-prod", "finance-ai-prod", "customer-ai-prod"]

/-- The configuration of the shipped bundle. -/
def shippedConfig : PolicyConfig where
  packs := shippedPacks
  quotaPolicies := Dict.ofList [
    ("platform", Dict.ofList [
      ("requests_per_minute", .int 120), ("tokens_per_day", .int 2000000),
      ("max_monthly_budget_usd", .int 2000), ("sensitive_data_allowed", .bool true)])]
  registry := Dict.ofList [
    ("llama3.1:8b", Dict.ofList [
      ("risk_tier", .str "low"), ("allowed_namespaces", .list ["ai-dev", "ai-prod"]),
      ("allowed_teams", .list ["platform", "finance", "search"]),
      ("allowed_regions", .list ["eu-central", "local", "us-east-1"]),
      ("max_monthly_budget_usd", .int 400), ("pii_allowed", .bool false),
      ("external_provider", .bool false)])]
  residency := {
    defaultRegion := "local"
    regions := Dict.ofList [
      ("eu-central", Dict.ofList [
        ("block_external_providers", .bool true), ("require_local_model", .bool true)]),
      ("local", Dict.ofList [
        ("block_external_providers", .bool false), ("require_local_model", .bool false)])] }
  costPolicies := shippedCostPolicies
  riskRules := shippedRiskRules

/-- The shipped bundle. -/
def shippedBundle : PolicyBundle where
  bundleId := "9c8b7a6d5e4f"
  contentDigest := "9c8b7a6d5e4f3a2b1c0d"
  config := .ok shippedConfig

/-- A process with a given `QUOTA_ON_UNAVAILABLE` and no signature checks. -/
def plainEnv (policy : QuotaOnUnavailable) : EngineEnv where
  quotaOnUnavailable := policy
  hmacSha256 := fun _ _ => ""

/-- A store without active capability contracts. -/
def noCapabilities (_agent _tenant : String) : Except PyError (String × String) := .ok ("", "")

/-- The verdict of the shipped bundle on a payload. -/
def shippedVerdict (policy : QuotaOnUnavailable) (telemetry : Option GovernanceTelemetryStage)
    (payload : GovernanceEvaluateRequest) : Option Verdict :=
  (evaluateGovernanceRequest .ascii (plainEnv policy) shippedBundle telemetry noCapabilities
    payload).toOption.map GovernanceEvaluateResponse.finalVerdict

example : shippedVerdict .approvalRequired none {} = some .allow := by decide +kernel

end ControlPlane

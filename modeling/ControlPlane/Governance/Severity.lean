/-
# Severity laws of the pipeline

Two comparisons of whole evaluations.  A payload with larger counters, volumes and
costs, or with more sensitive data and permissions, is judged at least as severely
as the smaller one.  And losing the quota backend is judged at least as severely as
keeping it, except where the fail-open policy or the approval override sets aside a
block that the quota engine would have issued.
-/
import ControlPlane.Governance.Pipeline
import Mathlib.Tactic.FinCases

namespace ControlPlane.Severity

/-! ## Heavier payloads -/

/-- The second payload differs from the first only in larger counters, volumes and
costs and in flags that went from false to true. -/
structure Heavier (p₁ p₂ : GovernanceEvaluateRequest) : Prop where
  same : p₂ = { p₁ with
    requestsLastMinute := p₂.requestsLastMinute, tokensToday := p₂.tokensToday,
    inputTokens := p₂.inputTokens, outputTokens := p₂.outputTokens,
    costPerRequestUsd := p₂.costPerRequestUsd, costPerHourUsd := p₂.costPerHourUsd,
    monthToDateCostUsd := p₂.monthToDateCostUsd,
    forecastMonthlyCostUsd := p₂.forecastMonthlyCostUsd,
    sensitiveData := p₂.sensitiveData, toolAccess := p₂.toolAccess,
    writePermission := p₂.writePermission }
  requestsLastMinute : p₁.requestsLastMinute ≤ p₂.requestsLastMinute
  tokensToday : p₁.tokensToday ≤ p₂.tokensToday
  inputTokens : p₁.inputTokens ≤ p₂.inputTokens
  outputTokens : p₁.outputTokens ≤ p₂.outputTokens
  costPerRequestUsd : p₁.costPerRequestUsd ≤ p₂.costPerRequestUsd
  costPerHourUsd : p₁.costPerHourUsd ≤ p₂.costPerHourUsd
  monthToDateCostUsd : p₁.monthToDateCostUsd ≤ p₂.monthToDateCostUsd
  forecastMonthlyCostUsd : p₁.forecastMonthlyCostUsd ≤ p₂.forecastMonthlyCostUsd
  sensitiveData : p₁.sensitiveData = true → p₂.sensitiveData = true
  toolAccess : p₁.toolAccess = true → p₂.toolAccess = true
  writePermission : p₁.writePermission = true → p₂.writePermission = true

/-- The override of an unavailable backend decides the same for every request. -/
theorem overrideQuota_block (policy : QuotaOnUnavailable) {q₁ q₂ : StageResult}
    (h : (overrideQuota policy q₁).decision = .block) :
    (overrideQuota policy q₂).decision = .block := by
  cases policy <;> simp_all [overrideQuota]

theorem overrideQuota_asks (policy : QuotaOnUnavailable) {q₁ q₂ : StageResult}
    (h : (overrideQuota policy q₁).decision = .approvalRequired) :
    (overrideQuota policy q₂).decision = .approvalRequired := by
  cases policy <;> simp_all [overrideQuota]

theorem approvalRequired_le {d : StageDecision} (h : .approvalRequired ≤ d) :
    d = .approvalRequired ∨ d = .block := by
  cases d <;> first | exact absurd h (by decide) | simp

/-- The payload without the fields in which one may be heavier than another. -/
def unweighed (p : GovernanceEvaluateRequest) : GovernanceEvaluateRequest :=
  { p with
    requestsLastMinute := 0, tokensToday := 0, inputTokens := 0, outputTokens := 0,
    costPerRequestUsd := 0, costPerHourUsd := 0, monthToDateCostUsd := 0,
    forecastMonthlyCostUsd := 0, sensitiveData := false, toolAccess := false,
    writePermission := false }

section Heavier

variable {p₁ p₂ : GovernanceEvaluateRequest} (hle : Heavier p₁ p₂)

include hle

/-- A field the comparison leaves alone is the same in both payloads. -/
theorem Heavier.eq {α : Type} (field : GovernanceEvaluateRequest → α) :
    field (unweighed p₁) = field (unweighed p₂) :=
  congrArg field (congrArg unweighed hle.same).symm

variable {py : PyRuntime} {env : EngineEnv} {config : PolicyConfig}
  {telemetry : Option GovernanceTelemetryStage} {s₁ s₂ : StageResults}

theorem quota_block_mono {pre₁ pre₂ : PolicyPack.PackResult}
    (hpre : pre₁.quotaMultiplier = pre₂.quotaMultiplier) {q₁ q₂ : StageResult}
    (h₁ : Quota.evaluateRequest py (toPipelineRow p₁) config.quotaPolicies pre₁.quotaMultiplier
      = .ok q₁)
    (h₂ : Quota.evaluateRequest py (toPipelineRow p₂) config.quotaPolicies pre₂.quotaMultiplier
      = .ok q₂)
    (hb : q₁.decision = .block) : q₂.decision = .block := by
  rw [hpre] at h₁
  refine Quota.evaluateRequest_block_mono py (hle.eq (·.team)) hle.requestsLastMinute ?_ ?_
    hle.sensitiveData h₁ h₂ hb
  · have := hle.tokensToday
    have := hle.inputTokens
    have := hle.outputTokens
    simp only [Quota.projectedTokens, toPipelineRow]
    omega
  · exact add_le_add hle.monthToDateCostUsd hle.costPerRequestUsd

theorem cost_mono {c₁ c₂ : StageResult}
    (h₁ : Cost.evaluateRow py (toPipelineRow p₁) config.costPolicies = .ok c₁)
    (h₂ : Cost.evaluateRow py (toPipelineRow p₂) config.costPolicies = .ok c₂) :
    c₁.decision ≤ c₂.decision :=
  Cost.evaluateRow_mono py (hle.eq (·.team)) (hle.eq (·.model)) hle.monthToDateCostUsd
    hle.costPerHourUsd hle.forecastMonthlyCostUsd h₁ h₂

theorem risk_mono (hw : Risk.NonnegWeights py config.riskRules.scoreWeights)
    {k₁ k₂ : Risk.RiskResult}
    (h₁ : Risk.evaluateRequest py (toPipelineRow p₁) config.riskRules config.registry = .ok k₁)
    (h₂ : Risk.evaluateRequest py (toPipelineRow p₂) config.riskRules config.registry = .ok k₂) :
    k₁.level.index ≤ k₂.level.index := by
  refine Risk.evaluateRequest_mono hw rfl (hle.eq (·.owner)) (hle.eq (·.provider))
    (hle.eq (·.environment)) (hle.eq (·.namespace)) (hle.eq (·.model)) (hle.eq (·.action)) ?_
    hle.forecastMonthlyCostUsd hle.sensitiveData hle.toolAccess hle.writePermission h₁ h₂
  exact add_le_add hle.inputTokens hle.outputTokens

theorem pack_block_mono {pre₁ pre₂ : PolicyPack.PackResult} {l₁ l₂ : Option RiskLevel}
    (h₁ : PolicyPack.evaluatePack py (toPipelineRow p₁) config.packs (registryModels config) l₁
      = .ok pre₁)
    (h₂ : PolicyPack.evaluatePack py (toPipelineRow p₂) config.packs (registryModels config) l₂
      = .ok pre₂)
    (hb : pre₁.decision = .block) : pre₂.decision = .block := by
  rw [(PolicyPack.evaluatePack_decision py h₁).1] at hb
  rw [(PolicyPack.evaluatePack_decision py h₂).1]
  exact hb.mono py (hle.eq (·.policyPack)) (hle.eq (·.environment)) (hle.eq (·.provider))
    (hle.eq (·.model)) (hle.eq (·.region)) hle.sensitiveData

theorem pack_name_eq : PolicyPack.resolvePackName py (toPipelineRow p₁) config.packs
    = PolicyPack.resolvePackName py (toPipelineRow p₂) config.packs := by
  have hpack : (toPipelineRow p₁).policyPack = (toPipelineRow p₂).policyPack :=
    hle.eq (·.policyPack)
  have henv : (toPipelineRow p₁).environment = (toPipelineRow p₂).environment :=
    hle.eq (·.environment)
  unfold PolicyPack.resolvePackName
  rw [hpack, henv]

theorem pack_multiplier_eq {pre₁ pre₂ : PolicyPack.PackResult} {l₁ l₂ : Option RiskLevel}
    (h₁ : PolicyPack.evaluatePack py (toPipelineRow p₁) config.packs (registryModels config) l₁
      = .ok pre₁)
    (h₂ : PolicyPack.evaluatePack py (toPipelineRow p₂) config.packs (registryModels config) l₂
      = .ok pre₂) : pre₁.quotaMultiplier = pre₂.quotaMultiplier := by
  have hm₁ := PolicyPack.evaluatePack_multiplier py h₁
  have hm₂ := PolicyPack.evaluatePack_multiplier py h₂
  rw [pack_name_eq hle, hm₂, Except.ok.injEq] at hm₁
  exact hm₁.symm

theorem approval_mono (hw : Risk.NonnegWeights py config.riskRules.scoreWeights)
    (L₁ : LaterStagesOk py env config telemetry (toPipelineRow p₁) s₁)
    (L₂ : LaterStagesOk py env config telemetry (toPipelineRow p₂) s₂) :
    s₁.approval.decision ≤ s₂.approval.decision := by
  rw [L₁.approval, L₂.approval]
  refine Approval.evaluateRequest_mono ?_ (hle.eq (·.team)) (hle.eq (·.model))
    (hle.eq (·.namespace)) (hle.eq (·.environment)) (hle.eq (·.provider)) (hle.eq (·.action))
    (cost_mono hle L₁.cost L₂.cost) (Cost.evaluateRow_ne_approvalRequired py L₂.cost)
    (risk_mono hle hw L₁.risk L₂.risk) hle.costPerHourUsd hle.forecastMonthlyCostUsd
  exact hle.eq (fun p => (Approval.buildApprovalRequest (toPipelineRow p) .allow .low).owner)

/-- A stage that blocks the lighter payload blocks the heavier one. -/
theorem blocked_mono (hw : Risk.NonnegWeights py config.riskRules.scoreWeights)
    (h₁ : evaluateStages py env config telemetry (toPipelineRow p₁) = .ok s₁)
    (h₂ : evaluateStages py env config telemetry (toPipelineRow p₂) = .ok s₂)
    (hb : s₁.Blocked) : s₂.Blocked := by
  obtain ⟨hpre₁, hcase₁⟩ := evaluateStages_ok py env h₁
  obtain ⟨hpre₂, hcase₂⟩ := evaluateStages_ok py env h₂
  by_cases hb₂ : s₂.packPre.decision = .block
  · exact Or.inl hb₂
  have hb₁ : s₁.packPre.decision ≠ .block := fun h => hb₂ (pack_block_mono hle hpre₁ hpre₂ h)
  have L₁ := (hcase₁.resolve_left (fun h => hb₁ h.1)).2
  have L₂ := (hcase₂.resolve_left (fun h => hb₂ h.1)).2
  unfold StageResults.Blocked at hb ⊢
  rcases hb with h | h | h | h | h | h | h | h
  · exact absurd h hb₁
  · right; left
    rw [L₁.prompt] at h
    rw [L₂.prompt]
    exact PromptSecurity.evaluatePromptSecurity_block_mono py (hle.eq (·.promptText))
      hle.sensitiveData h
  · right; right; left
    have hagent : Agents.evaluateAgentPolicy py (toPipelineRow p₁) "" config.agents config.tools
        = Agents.evaluateAgentPolicy py (toPipelineRow p₂) "" config.agents config.tools :=
      hle.eq (fun p =>
        Agents.evaluateAgentPolicy py (toPipelineRow p) "" config.agents config.tools)
    rw [← h]
    have := L₁.agent.symm.trans (hagent.trans L₂.agent)
    rw [Except.ok.injEq] at this
    rw [this]
  · right; right; right; left
    obtain ⟨own₁, hown₁, hq₁⟩ := L₁.quota
    obtain ⟨own₂, hown₂, hq₂⟩ := L₂.quota
    have hpre := pack_multiplier_eq hle hpre₁ hpre₂
    rw [hq₁] at h
    rw [hq₂]
    by_cases hu : quotaUnavailable telemetry = true
    · rw [if_pos hu] at h ⊢
      exact overrideQuota_block env.quotaOnUnavailable h
    · rw [if_neg hu] at h ⊢
      exact quota_block_mono hle hpre hown₁ hown₂ h
  · right; right; right; right; left
    exact Registry.evaluateModelPolicy_mono py env (hle.eq (·.model)) (hle.eq (·.namespace))
      (hle.eq (·.team)) (hle.eq (·.modelArtifactDigest)) hle.sensitiveData
      hle.forecastMonthlyCostUsd L₁.registry L₂.registry h
  · right; right; right; right; right; left
    have hresidency : Sovereign.evaluateResidency py (toPipelineRow p₁) config.residency
          (config.registry (toPipelineRow p₁).model)
        = Sovereign.evaluateResidency py (toPipelineRow p₂) config.residency
          (config.registry (toPipelineRow p₂).model) :=
      hle.eq (fun p => Sovereign.evaluateResidency py (toPipelineRow p) config.residency
        (config.registry (toPipelineRow p).model))
    rw [L₂.sovereign, ← hresidency, ← L₁.sovereign]
    exact h
  · right; right; right; right; right; right; left
    have hc := cost_mono hle L₁.cost L₂.cost
    rw [h, StageDecision.block_le_iff] at hc
    exact hc
  · right; right; right; right; right; right; right
    have ha := approval_mono hle hw L₁ L₂
    rw [h, StageDecision.block_le_iff] at ha
    exact ha

/-- A stage that asks about the lighter payload is answered by a stage that asks about
or blocks the heavier one. -/
theorem asked_mono (hw : Risk.NonnegWeights py config.riskRules.scoreWeights)
    (h₁ : evaluateStages py env config telemetry (toPipelineRow p₁) = .ok s₁)
    (h₂ : evaluateStages py env config telemetry (toPipelineRow p₂) = .ok s₂)
    (hb₁ : ¬ s₁.Blocked) (ha : s₁.Asked) : s₂.Blocked ∨ s₂.Asked := by
  obtain ⟨hpre₁, hcase₁⟩ := evaluateStages_ok py env h₁
  obtain ⟨hpre₂, hcase₂⟩ := evaluateStages_ok py env h₂
  by_cases hb₂ : s₂.packPre.decision = .block
  · exact Or.inl (Or.inl hb₂)
  have L₁ := (hcase₁.resolve_left (fun h => hb₁ (Or.inl h.1))).2
  have L₂ := (hcase₂.resolve_left (fun h => hb₂ h.1)).2
  have hrisk := risk_mono hle hw L₁.risk L₂.risk
  unfold StageResults.Asked at ha ⊢
  rcases ha with h | h | h | h | h
  · obtain ⟨own₁, hown₁, hq₁⟩ := L₁.quota
    obtain ⟨own₂, hown₂, hq₂⟩ := L₂.quota
    rw [hq₁] at h
    by_cases hu : quotaUnavailable telemetry = true
    · rw [if_pos hu] at h hq₂
      right; left
      rw [hq₂]
      exact overrideQuota_asks env.quotaOnUnavailable h
    · rw [if_neg hu] at h
      rcases Quota.evaluateRequest_block_or_allow py hown₁ with hd | hd <;>
        rw [hd] at h <;> cases h
  · right; right; left
    have hb₂' := hb₂
    rw [(PolicyPack.evaluatePack_decision py hpre₂).1] at hb₂'
    rw [(PolicyPack.evaluatePack_decision py L₁.packPost).2] at h
    rw [(PolicyPack.evaluatePack_decision py L₂.packPost).2]
    refine ⟨hb₂', ?_⟩
    obtain ⟨-, hasks⟩ := h
    unfold PolicyPack.Asks at hasks ⊢
    rw [pack_name_eq hle] at hasks
    cases hp : config.packs.packs (PolicyPack.resolvePackName py (toPipelineRow p₂) config.packs) with
    | none =>
      rw [hp] at hasks
      exact hasks.elim
    | some pack =>
      rw [hp] at hasks
      exact PolicyPack.packAsks_mono py hrisk pack hasks
  · right; right; right; left
    revert hrisk
    rw [h]
    cases s₂.risk.level <;> decide
  · have hle' := approval_mono hle hw L₁ L₂
    rw [h] at hle'
    rcases approvalRequired_le hle' with h' | h'
    · right; right; right; right; left
      exact h'
    · left
      right; right; right; right; right; right; right
      exact h'
  · have hc := cost_mono hle L₁.cost L₂.cost
    rcases Approval.costDecision_cases hc h (Cost.evaluateRow_ne_approvalRequired py L₂.cost)
      with h' | h'
    · left
      right; right; right; right; right; right; left
      exact h'
    · right; right; right; right; right
      exact h'

end Heavier

/-- **Monotonicity of the pipeline.**  For nonnegative risk weights and thresholds in any
order, the heavier of two payloads gets a verdict at least as severe. -/
theorem evaluateGovernanceRequest_mono (py : PyRuntime) (env : EngineEnv) (bundle : PolicyBundle)
    (telemetry : Option GovernanceTelemetryStage)
    (capabilities : String → String → Except PyError (String × String))
    (p₁ p₂ : GovernanceEvaluateRequest) (r₁ r₂ : GovernanceEvaluateResponse)
    (hw : ∀ config, bundle.config = .ok config →
      Risk.NonnegWeights py config.riskRules.scoreWeights)
    (hle : Heavier p₁ p₂)
    (h₁ : evaluateGovernanceRequest py env bundle telemetry capabilities p₁ = .ok r₁)
    (h₂ : evaluateGovernanceRequest py env bundle telemetry capabilities p₂ = .ok r₂) :
    r₁.finalVerdict ≤ r₂.finalVerdict := by
  obtain ⟨config, s₁, hconfig, hs₁, hv₁⟩ := evaluateGovernanceRequest_ok py env h₁
  obtain ⟨config', s₂, hconfig', hs₂, hv₂⟩ := evaluateGovernanceRequest_ok py env h₂
  rw [hconfig, Except.ok.injEq] at hconfig'
  subst hconfig'
  have hweights := hw config hconfig
  rw [hv₁, hv₂, judge_le_iff]
  refine ⟨Or.imp_right (blocked_mono hle hweights hs₁ hs₂), ?_⟩
  rintro (ht | hb | ha)
  · exact Or.inl ht
  · exact Or.inr (Or.inl (blocked_mono hle hweights hs₁ hs₂ hb))
  · by_cases hb : s₁.Blocked
    · exact Or.inr (Or.inl (blocked_mono hle hweights hs₁ hs₂ hb))
    · exact Or.inr (asked_mono hle hweights hs₁ hs₂ hb ha)

/-- The shipped score weights are nonnegative. -/
theorem shippedRiskRules_nonneg :
    Risk.NonnegWeights .ascii shippedConfig.riskRules.scoreWeights := by
  intro key hkey
  fin_cases hkey <;> exact ⟨_, _, rfl, rfl, by decide⟩

/-- Marking the default request sensitive on the shipped bundle. -/
theorem evaluateGovernanceRequest_mono_sensitive :
    ∃ r₁ r₂,
      evaluateGovernanceRequest .ascii (plainEnv .block) shippedBundle none noCapabilities {}
        = .ok r₁ ∧
      evaluateGovernanceRequest .ascii (plainEnv .block) shippedBundle none noCapabilities
        { sensitiveData := true } = .ok r₂ ∧
      r₁.finalVerdict ≤ r₂.finalVerdict := by
  obtain ⟨r₁, h₁⟩ := exists_ok_of_isOk (evaluateGovernanceRequest .ascii (plainEnv .block)
    shippedBundle none noCapabilities {}) (by decide +kernel)
  obtain ⟨r₂, h₂⟩ := exists_ok_of_isOk (evaluateGovernanceRequest .ascii (plainEnv .block)
    shippedBundle none noCapabilities { sensitiveData := true }) (by decide +kernel)
  refine ⟨r₁, r₂, h₁, h₂, evaluateGovernanceRequest_mono .ascii (plainEnv .block) shippedBundle
    none noCapabilities {} { sensitiveData := true } r₁ r₂ ?_ ?_ h₁ h₂⟩
  · intro config hconfig
    cases hconfig
    exact shippedRiskRules_nonneg
  · constructor <;> simp

/-! ## The quota backend is lost -/

/-- The telemetry with the quota source unavailable and everything else unchanged. -/
def loseQuota (t : GovernanceTelemetryStage) : GovernanceTelemetryStage :=
  { t with quotaSource := .unavailable }

/-- The stage results with the override applied to the quota stage, if it ran. -/
def overrideStages (policy : QuotaOnUnavailable) (s : StageResults) : StageResults :=
  if s.packPre.decision = .block then s else { s with quota := overrideQuota policy s.quota }

section Lost

variable (py : PyRuntime) (env : EngineEnv)

/-- **Losing the quota backend rewrites the quota result and nothing else.** -/
theorem evaluateStages_loseQuota {config : PolicyConfig} {t : GovernanceTelemetryStage}
    {row : PipelineRow} {s : StageResults} (ht : t.quotaSource ≠ .unavailable)
    (h : evaluateStages py env config (some t) row = .ok s) :
    evaluateStages py env config (some (loseQuota t)) row
      = .ok (overrideStages env.quotaOnUnavailable s) := by
  have havail : quotaUnavailable (some t) = false := by simpa [quotaUnavailable] using ht
  have hlost : quotaUnavailable (some (loseQuota t)) = true := rfl
  unfold evaluateStages at h ⊢
  rw [bind_eq_ok] at h ⊢
  obtain ⟨packPre, hpre, h⟩ := h
  refine ⟨packPre, hpre, ?_⟩
  by_cases hb : packPre.decision = .block
  · rw [if_pos hb, pure_eq_ok] at h ⊢
    subst h
    exact (if_pos hb).symm
  · rw [if_neg hb] at h ⊢
    unfold laterStages at h ⊢
    rw [havail] at h
    rw [hlost]
    simp only [bind_eq_ok, pure_eq_ok] at h ⊢
    obtain ⟨agent, hagent, own, hown, registry, hregistry, cost, hcost, risk, hrisk, packPost,
      hpost, rfl⟩ := h
    exact ⟨agent, hagent, own, hown, registry, hregistry, cost, hcost, risk, hrisk, packPost,
      hpost, (if_neg hb).symm⟩

end Lost

/-- A stage other than the quota stage blocks, or the telemetry does. -/
def BlockedElsewhere (t : GovernanceTelemetryStage) (s : StageResults) : Prop :=
  t.blockReasons ≠ [] ∨ s.packPre.decision = .block ∨ s.prompt.decision = .block
    ∨ s.agent.forbidden = true ∨ s.registry.forbidden = true ∨ s.sovereign.forbidden = true
    ∨ s.cost.decision = .block ∨ s.approval.decision = .block

/-- A block outside the quota stage survives the override. -/
theorem blocked_of_blockedElsewhere {t : GovernanceTelemetryStage} {s : StageResults}
    (policy : QuotaOnUnavailable) (h : BlockedElsewhere t s) :
    TelemetryBlocks (some (loseQuota t)) ∨ (overrideStages policy s).Blocked := by
  rcases h with h | h
  · exact Or.inl h
  right
  unfold overrideStages
  by_cases hb : s.packPre.decision = .block
  · rw [if_pos hb]
    exact Or.inl hb
  · rw [if_neg hb]
    unfold StageResults.Blocked
    simp only
    tauto

/-- Without a block of the quota stage the override only adds to what is decided. -/
theorem judge_le_overrideStages {t : GovernanceTelemetryStage} {s : StageResults}
    (policy : QuotaOnUnavailable) (hq : s.quota.decision = .block ∨ s.quota.decision = .allow)
    (h : s.quota.decision ≠ .block ∨ policy = .block ∨ BlockedElsewhere t s) :
    (judge (some t) s).1 ≤ (judge (some (loseQuota t)) (overrideStages policy s)).1 := by
  have hblock : TelemetryBlocks (some t) ∨ s.Blocked →
      TelemetryBlocks (some (loseQuota t)) ∨ (overrideStages policy s).Blocked := by
    intro hb
    by_cases he : BlockedElsewhere t s
    · exact blocked_of_blockedElsewhere policy he
    have hquota : s.quota.decision = .block := by
      unfold BlockedElsewhere at he
      unfold TelemetryBlocks StageResults.Blocked at hb
      simp only [Option.elim_some] at hb
      tauto
    have hpolicy : policy = .block := by tauto
    have hpre : s.packPre.decision ≠ .block := by
      unfold BlockedElsewhere at he
      tauto
    right
    unfold overrideStages
    rw [if_neg hpre, hpolicy]
    exact Or.inr (Or.inr (Or.inr (Or.inl rfl)))
  rw [judge_le_iff]
  refine ⟨hblock, ?_⟩
  rintro (ht | hb | ha)
  · exact Or.inl ht
  · rcases hblock (Or.inr hb) with h' | h'
    · exact Or.inl h'
    · exact Or.inr (Or.inl h')
  · unfold overrideStages
    split_ifs with hpre
    · exact Or.inr (Or.inr ha)
    · refine Or.inr (Or.inr ?_)
      unfold StageResults.Asked at ha ⊢
      rcases ha with ha | ha
      · rcases hq with hq | hq <;> rw [hq] at ha <;> cases ha
      · exact Or.inr ha

/-- Under the fail-open policy the verdict is what the other stages decide. -/
theorem judge_overrideStages_allow (t : GovernanceTelemetryStage) (s : StageResults) :
    (judge (some (loseQuota t)) (overrideStages .allow s)).1
      = (judge (some t) { s with quota := { s.quota with decision := .allow } }).1 := by
  rw [Verdict.eq_iff_forall, judge_block_iff, judge_block_iff, judge_ne_allow_iff,
    judge_ne_allow_iff]
  unfold overrideStages
  by_cases hpre : s.packPre.decision = .block
  · rw [if_pos hpre]
    have hs : s.Blocked := Or.inl hpre
    have hs' : StageResults.Blocked
        { s with quota := { s.quota with decision := .allow } } := Or.inl hpre
    exact ⟨iff_of_true (Or.inr hs) (Or.inr hs'),
      iff_of_true (Or.inr (Or.inl hs)) (Or.inr (Or.inl hs'))⟩
  · rw [if_neg hpre]
    exact ⟨Iff.rfl, Iff.rfl⟩

section Lost

variable (py : PyRuntime) (env : EngineEnv)

/-- The quota stage as the engine alone decides it, or as it is reported when skipped. -/
theorem quota_block_or_allow {config : PolicyConfig} {t : GovernanceTelemetryStage}
    {row : PipelineRow} {s : StageResults} (ht : t.quotaSource ≠ .unavailable)
    (h : evaluateStages py env config (some t) row = .ok s) :
    s.quota.decision = .block ∨ s.quota.decision = .allow := by
  obtain ⟨-, ⟨-, hs⟩ | ⟨-, L⟩⟩ := evaluateStages_ok py env h
  · right
    rw [hs]
    rfl
  · obtain ⟨own, hown, hq⟩ := L.quota
    have havail : quotaUnavailable (some t) = false := by simpa [quotaUnavailable] using ht
    rw [havail, if_neg Bool.false_ne_true] at hq
    rw [hq]
    exact Quota.evaluateRequest_block_or_allow py hown

theorem evaluateGovernanceRequest_loseQuota {bundle : PolicyBundle}
    {t : GovernanceTelemetryStage}
    {capabilities : String → String → Except PyError (String × String)}
    {payload : GovernanceEvaluateRequest} {r₁ : GovernanceEvaluateResponse}
    (ht : t.quotaSource ≠ .unavailable)
    (h₁ : evaluateGovernanceRequest py env bundle (some t) capabilities payload = .ok r₁) :
    ∃ config s r₂, bundle.config = .ok config ∧
      evaluateStages py env config (some t) (toPipelineRow payload) = .ok s ∧
      evaluateGovernanceRequest py env bundle (some (loseQuota t)) capabilities payload
        = .ok r₂ ∧
      r₁.finalVerdict = (judge (some t) s).1 ∧
      r₂.finalVerdict
        = (judge (some (loseQuota t)) (overrideStages env.quotaOnUnavailable s)).1 := by
  obtain ⟨config, s, hconfig, hs, hv⟩ := evaluateGovernanceRequest_ok py env h₁
  have hs' := evaluateStages_loseQuota py env ht hs
  unfold evaluateGovernanceRequest runBundle at h₁ ⊢
  rw [hconfig] at h₁ ⊢
  rw [bind_eq_ok] at h₁
  obtain ⟨s', -, h₁⟩ := h₁
  rw [bind_eq_ok] at h₁
  obtain ⟨digests, hd, -⟩ := h₁
  refine ⟨config, s, respond bundle (some (loseQuota t))
    (overrideStages env.quotaOnUnavailable s) digests, rfl, hs, ?_, hv, rfl⟩
  rw [bind_eq_ok]
  exact ⟨_, hs', bind_eq_ok.mpr ⟨digests, hd, rfl⟩⟩

/-- **Losing the quota backend, as designed.**  Under the policy `block` the verdict never
becomes milder; under `approval_required` it is never a plain allow; under `allow` it is
what the other stages decide; and under every policy it does not become milder when the
quota engine had not blocked the request, or when something else blocks it as well. -/
theorem loseQuota_severity (bundle : PolicyBundle) (t : GovernanceTelemetryStage)
    (capabilities : String → String → Except PyError (String × String))
    (payload : GovernanceEvaluateRequest) (r₁ : GovernanceEvaluateResponse)
    (ht : t.quotaSource ≠ .unavailable)
    (h₁ : evaluateGovernanceRequest py env bundle (some t) capabilities payload = .ok r₁) :
    ∃ config s r₂, bundle.config = .ok config ∧
      evaluateStages py env config (some t) (toPipelineRow payload) = .ok s ∧
      evaluateGovernanceRequest py env bundle (some (loseQuota t)) capabilities payload
        = .ok r₂ ∧
      (env.quotaOnUnavailable = .block → r₁.finalVerdict ≤ r₂.finalVerdict) ∧
      (env.quotaOnUnavailable = .approvalRequired → r₂.finalVerdict ≠ .allow) ∧
      (env.quotaOnUnavailable = .allow → r₂.finalVerdict
        = (judge (some t) { s with quota := { s.quota with decision := .allow } }).1) ∧
      (s.quota.decision ≠ .block ∨ BlockedElsewhere t s →
        r₁.finalVerdict ≤ r₂.finalVerdict) := by
  obtain ⟨config, s, r₂, hconfig, hs, h₂, hv₁, hv₂⟩ :=
    evaluateGovernanceRequest_loseQuota py env ht h₁
  have hq := quota_block_or_allow py env ht hs
  refine ⟨config, s, r₂, hconfig, hs, h₂, ?_, ?_, ?_, ?_⟩
  · intro hpolicy
    rw [hv₁, hv₂]
    exact judge_le_overrideStages _ hq (Or.inr (Or.inl hpolicy))
  · intro hpolicy
    rw [hv₂, judge_ne_allow_iff, hpolicy]
    unfold overrideStages
    split_ifs with hpre
    · exact Or.inr (Or.inl (Or.inl hpre))
    · exact Or.inr (Or.inr (Or.inl rfl))
  · intro hpolicy
    rw [hv₂, hpolicy]
    exact judge_overrideStages_allow t s
  · rintro (h | h)
    · rw [hv₁, hv₂]
      exact judge_le_overrideStages _ hq (Or.inl h)
    · rw [hv₁, hv₂]
      exact judge_le_overrideStages _ hq (Or.inr (Or.inr h))

end Lost

/-- The default request on the shipped bundle, with the counters read from Redis. -/
theorem loseQuota_severity_default :
    ∃ r₁, evaluateGovernanceRequest .ascii (plainEnv .block) shippedBundle
        (some { quotaSource := .redis }) noCapabilities {} = .ok r₁ ∧
      ∃ r₂, evaluateGovernanceRequest .ascii (plainEnv .block) shippedBundle
        (some (loseQuota { quotaSource := .redis })) noCapabilities {} = .ok r₂ ∧
      r₁.finalVerdict ≤ r₂.finalVerdict := by
  obtain ⟨r₁, h₁⟩ := exists_ok_of_isOk (evaluateGovernanceRequest .ascii (plainEnv .block)
    shippedBundle (some { quotaSource := .redis }) noCapabilities {}) (by decide +kernel)
  obtain ⟨_, _, r₂, -, -, h₂, hblock, -⟩ := loseQuota_severity .ascii (plainEnv .block)
    shippedBundle { quotaSource := .redis } noCapabilities {} r₁ (by decide) h₁
  exact ⟨r₁, h₁, r₂, h₂, hblock rfl⟩

/-- A request of the team `mlops`, which is onboarded for cost and approval but has no
quota policy, is blocked while Redis answers.  When it does not, it is allowed under
`QUOTA_ON_UNAVAILABLE=allow`, and under `approval_required` it waits for an approval. -/
theorem loseQuota_relaxes :
    (shippedVerdict .allow (some { quotaSource := .redis })
        { team := "mlops", model := "qwen2.5:14b" } = some .block ∧
      shippedVerdict .allow (some (loseQuota { quotaSource := .redis }))
        { team := "mlops", model := "qwen2.5:14b" } = some .allow) ∧
    shippedVerdict .approvalRequired (some { quotaSource := .redis })
        { team := "mlops", model := "qwen2.5:14b" } = some .block ∧
      shippedVerdict .approvalRequired (some (loseQuota { quotaSource := .redis }))
        { team := "mlops", model := "qwen2.5:14b" } = some .approvalRequired := by
  decide +kernel

end ControlPlane.Severity

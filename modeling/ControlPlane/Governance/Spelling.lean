/-
# Spelling of providers and environments

The residency engine and the choice of the pack read the provider and the
environment trimmed and in lower case.  The rules of a pack, the risk factors and
the approval engine compare them as they are spelled.  A payload is compared here
with its canonical spelling: which of the two is judged more severely, and exactly
when the spelling lets a request escape what its canonical form meets.
-/
import ControlPlane.Governance.Pipeline

namespace ControlPlane.Spelling

variable (py : PyRuntime) (env : EngineEnv)

/-- The payload with provider and environment trimmed and in lower case. -/
def canonicalSpelling (payload : GovernanceEvaluateRequest) : GovernanceEvaluateRequest :=
  { payload with
    provider := py.canonical payload.provider
    environment := py.canonical payload.environment }

/-- The same on rows. -/
def canonicalRow (row : PipelineRow) : PipelineRow :=
  { row with
    provider := py.canonical row.provider, environment := py.canonical row.environment }

/-- The configuration spells providers and environments trimmed and in lower case. -/
structure CanonicalConfig (config : PolicyConfig) : Prop where
  externalProviders : ∀ provider ∈ config.riskRules.externalProviders,
    py.canonical provider = provider
  environmentMap : ∀ environment pack,
    config.packs.environmentMap environment = some pack → py.canonical environment = environment
  requireEnvironment : ∀ name pack environment, config.packs.packs name = some pack →
    pack "require_environment" = some (.str environment) → py.canonical environment = environment

/-- The pack in force blocks external providers, and the provider is external only once
it is trimmed and in lower case. -/
def HidesProvider (config : PolicyConfig) (row : PipelineRow) : Prop :=
  ∃ pack, config.packs.packs (PolicyPack.resolvePackName py row config.packs) = some pack ∧
    pack.truthy "block_external_providers" = true ∧
    row.provider ∉ PolicyPack.externalProviders ∧
    py.canonical row.provider ∈ PolicyPack.externalProviders

/-- The canonical spelling of the row gives no ground for an approval that depends on the
spelling: it is neither production nor external, and neither the approval engine nor the
pack asks at its risk level. -/
def Unremarkable (config : PolicyConfig) (row : PipelineRow) : Prop :=
  py.canonical row.environment ≠ "production" ∧
  py.canonical row.provider ∉ PolicyPack.externalProviders ∧
  Yields (Risk.evaluateRequest py (canonicalRow py row) config.riskRules config.registry)
    (fun risk => risk.level ∉ [RiskLevel.high, .critical] ∧
      ¬ PolicyPack.Asks py row config.packs (some risk.level))

/-! ## What the spelling does not change -/

theorem toPipelineRow_canonicalSpelling (payload : GovernanceEvaluateRequest) :
    toPipelineRow (canonicalSpelling py payload) = canonicalRow py (toPipelineRow payload) := rfl

@[simp] theorem resolvePackName_canonicalRow (row : PipelineRow) (config : PackConfig) :
    PolicyPack.resolvePackName py (canonicalRow py row) config
      = PolicyPack.resolvePackName py row config := by
  unfold PolicyPack.resolvePackName canonicalRow
  rw [PyRuntime.canonical_canonical]

theorem asks_canonicalRow (row : PipelineRow) (config : PackConfig)
    (riskLevel : Option RiskLevel) :
    PolicyPack.Asks py (canonicalRow py row) config riskLevel
      ↔ PolicyPack.Asks py row config riskLevel := by
  unfold PolicyPack.Asks
  rw [resolvePackName_canonicalRow]

theorem quotaResult_canonicalRow (config : PolicyConfig)
    (telemetry : Option GovernanceTelemetryStage) (row : PipelineRow) :
    quotaResult py env config telemetry (canonicalRow py row)
      = quotaResult py env config telemetry row := by
  unfold quotaResult
  rw [resolvePackName_canonicalRow]
  rfl

/-- A provider or an environment that a rule matches as spelled is matched canonically. -/
theorem canonical_externalProvider {provider : String}
    (h : provider ∈ PolicyPack.externalProviders) : py.canonical provider = provider := by
  simp only [PolicyPack.externalProviders, List.mem_cons, List.not_mem_nil, or_false] at h
  rcases h with rfl | rfl | rfl <;>
    exact py.canonical_eq_self (by decide) (by decide)

theorem canonical_production : py.canonical "production" = "production" :=
  py.canonical_eq_self (by decide) (by decide)

/-! ## The pack -/

variable {py} in
/-- The environment rule is no stricter on the canonical spelling. -/
theorem wrongEnvironment_of_canonicalRow {config : PolicyConfig} (hc : CanonicalConfig py config)
    {name : String} {pack : Entry} (hpack : config.packs.packs name = some pack)
    {row : PipelineRow} (h : PolicyPack.wrongEnvironment (canonicalRow py row) pack = true) :
    PolicyPack.wrongEnvironment row pack = true := by
  unfold PolicyPack.wrongEnvironment at h ⊢
  rw [Bool.and_eq_true, decide_eq_true_eq] at h ⊢
  refine ⟨h.1, fun hreq => h.2 ?_⟩
  rw [hreq, canonicalRow, hc.requireEnvironment name pack _ hpack hreq]

variable {py} in
/-- **The pack is milder on the spelled row exactly through its provider rule.** -/
theorem blocks_canonicalRow_iff {config : PolicyConfig} (hc : CanonicalConfig py config)
    {row : PipelineRow}
    (h : ¬ PolicyPack.Blocks py row config.packs (registryModels config)) :
    PolicyPack.Blocks py (canonicalRow py row) config.packs (registryModels config)
      ↔ HidesProvider py config row := by
  unfold PolicyPack.Blocks at h ⊢
  unfold HidesProvider
  rw [resolvePackName_canonicalRow]
  cases hp : config.packs.packs (PolicyPack.resolvePackName py row config.packs) with
  | none =>
    rw [hp] at h
    exact absurd trivial h
  | some pack =>
    simp only [hp] at h ⊢
    unfold PolicyPack.packReasons at h ⊢
    simp only [append_reasonIf_ne_nil, reasonIf_ne_nil, not_or] at h ⊢
    obtain ⟨⟨⟨⟨henv, hprov⟩, hmodel⟩, hsens⟩, hregion⟩ := h
    constructor
    · rintro ((((h | h) | h) | h) | h)
      · exact absurd (wrongEnvironment_of_canonicalRow hc hp h) henv
      · unfold PolicyPack.blockedProvider at h hprov
        rw [Bool.and_eq_true, decide_eq_true_eq] at h hprov
        exact ⟨pack, rfl, h.1, fun hr => hprov ⟨h.1, hr⟩, h.2⟩
      · exact absurd h hmodel
      · exact absurd h hsens
      · exact absurd h hregion
    · rintro ⟨pack', hpack', hblock, -, hext⟩
      cases hpack'
      refine Or.inl (Or.inl (Or.inl (Or.inr ?_)))
      unfold PolicyPack.blockedProvider
      rw [Bool.and_eq_true, decide_eq_true_eq]
      exact ⟨hblock, hext⟩

/-! ## The other engines -/

variable {py env} in
/-- Behind the pack every rule blocks both spellings alike. -/
theorem otherRulesBlock_canonicalRow_iff {config : PolicyConfig}
    {telemetry : Option GovernanceTelemetryStage} {row : PipelineRow}
    (h : ¬ OtherRulesBlock py env config telemetry row) :
    OtherRulesBlock py env config telemetry (canonicalRow py row)
      ↔ PolicyPack.Blocks py (canonicalRow py row) config.packs (registryModels config) := by
  refine ⟨?_, Or.inl⟩
  unfold OtherRulesBlock at h
  rintro (hb | hb | hb | hb | hb | hb)
  · exact hb
  · exact absurd (Or.inr (Or.inl hb)) h
  · rw [quotaResult_canonicalRow] at hb
    exact absurd (Or.inr (Or.inr (Or.inl hb))) h
  · exact absurd (Or.inr (Or.inr (Or.inr (Or.inl hb)))) h
  · have hs := Sovereign.evaluateResidency_canonical py row config.residency
      (config.registry row.model) (py.canonical row.environment)
    rw [show Sovereign.evaluateResidency py (canonicalRow py row) config.residency
      (config.registry (canonicalRow py row).model) = _ from hs] at hb
    exact absurd (Or.inr (Or.inr (Or.inr (Or.inr (Or.inl hb))))) h
  · exact absurd (Or.inr (Or.inr (Or.inr (Or.inr (Or.inr hb))))) h

variable {py env} in
/-- When nothing blocks the row as spelled, its canonical spelling is blocked exactly
when the spelling evades the provider rule of the pack. -/
theorem blocked_canonicalRow_iff {config : PolicyConfig} (hc : CanonicalConfig py config)
    {telemetry : Option GovernanceTelemetryStage} {row : PipelineRow} {s s' : StageResults}
    (hs : evaluateStages py env config telemetry row = .ok s)
    (hs' : evaluateStages py env config telemetry (canonicalRow py row) = .ok s')
    (hb : ¬ s.Blocked) : s'.Blocked ↔ HidesProvider py config row := by
  rw [blocked_iff_rulesBlock py env hs, not_or] at hb
  obtain ⟨hprompt, hother⟩ := hb
  have hprompt' : ¬ PromptBlocks py (canonicalRow py row) := hprompt
  have hpack : ¬ PolicyPack.Blocks py row config.packs (registryModels config) :=
    fun h => hother (Or.inl h)
  rw [blocked_iff_rulesBlock py env hs', otherRulesBlock_canonicalRow_iff hother,
    blocks_canonicalRow_iff hc hpack]
  exact or_iff_right hprompt'

variable {py env} in
/-- The approval rules match every spelling they match as written canonically too. -/
theorem rulesAsk_canonicalRow_iff {config : PolicyConfig}
    {telemetry : Option GovernanceTelemetryStage} {row : PipelineRow} {risk : Risk.RiskResult}
    {cost : StageResult} (hcost : Cost.evaluateRow py row config.costPolicies = .ok cost)
    (hrisk : Risk.evaluateRequest py (canonicalRow py row) config.riskRules config.registry
      = .ok risk)
    {risk₀ : Risk.RiskResult}
    (hrisk₀ : Risk.evaluateRequest py row config.riskRules config.registry = .ok risk₀)
    (h : ¬ RulesAsk py env config telemetry row) :
    RulesAsk py env config telemetry (canonicalRow py row) ↔ ¬ Unremarkable py config row := by
  have hcost' : Cost.evaluateRow py (canonicalRow py row) config.costPolicies = .ok cost := hcost
  unfold RulesAsk at h ⊢
  unfold Unremarkable
  rw [yields_iff hcost, yields_iff hrisk₀, Approval.approvalReasons_ne_nil] at h
  rw [yields_iff hcost', yields_iff hrisk, yields_iff hrisk, Approval.approvalReasons_ne_nil,
    asks_canonicalRow]
  unfold Approval.isProduction at h ⊢
  simp only [Approval.buildApprovalRequest, canonicalRow, not_or] at h ⊢
  -- only the grounds that read the spelling or the risk level can differ
  obtain ⟨hquota, -, hwarn, ⟨-, hns⟩, -, haction, -, hhour, hforecast⟩ := h
  simp only [hquota, hwarn, hns, haction, hhour, hforecast, false_or, or_false]
  tauto

/-- **When the spelling lets nothing escape.**  The verdict of a payload is at least as
severe as the verdict of its canonical spelling exactly when the telemetry or a rule
blocks it as spelled, or its pack is not one whose provider rule the spelling evades and
either a rule asks for approval as spelled or the canonical spelling is unremarkable. -/
theorem canonicalSpelling_le_iff (bundle : PolicyBundle) (config : PolicyConfig)
    (telemetry : Option GovernanceTelemetryStage)
    (capabilities : String → String → Except PyError (String × String))
    (payload : GovernanceEvaluateRequest) (r r' : GovernanceEvaluateResponse)
    (hconfig : bundle.config = .ok config) (hc : CanonicalConfig py config)
    (h : evaluateGovernanceRequest py env bundle telemetry capabilities payload = .ok r)
    (h' : evaluateGovernanceRequest py env bundle telemetry capabilities
      (canonicalSpelling py payload) = .ok r') :
    r'.finalVerdict ≤ r.finalVerdict ↔
      TelemetryBlocks telemetry ∨
      PromptBlocks py (toPipelineRow payload) ∨
      OtherRulesBlock py env config telemetry (toPipelineRow payload) ∨
      (¬ HidesProvider py config (toPipelineRow payload) ∧
        (RulesAsk py env config telemetry (toPipelineRow payload) ∨
          Unremarkable py config (toPipelineRow payload))) := by
  obtain ⟨config₁, s, hconfig₁, hs, hv⟩ := evaluateGovernanceRequest_ok py env h
  obtain ⟨config₂, s', hconfig₂, hs', hv'⟩ := evaluateGovernanceRequest_ok py env h'
  rw [hconfig, Except.ok.injEq] at hconfig₁ hconfig₂
  subst hconfig₁ hconfig₂
  rw [toPipelineRow_canonicalSpelling] at hs'
  generalize toPipelineRow payload = row at hs hs' ⊢
  rw [hv, hv', judge_le_iff, ← or_assoc (a := PromptBlocks py row),
    ← blocked_iff_rulesBlock py env hs]
  by_cases htel : TelemetryBlocks telemetry
  · simp only [htel, true_or, implies_true, and_self]
  by_cases hb : s.Blocked
  · simp only [hb, true_or, or_true, implies_true, and_self]
  simp only [htel, hb, false_or]
  have hblocked := blocked_canonicalRow_iff hc hs hs' hb
  have hasked := asked_iff_rulesAsk py env hs hb
  by_cases hhides : HidesProvider py config row
  · rw [hblocked]
    exact iff_of_false (fun hle => hle.1 hhides) (fun hcond => hcond.1 hhides)
  have hb' : ¬ s'.Blocked := fun hb' => hhides (hblocked.mp hb')
  rw [hasked]
  by_cases hask : RulesAsk py env config telemetry row
  · exact iff_of_true ⟨hb', fun _ => hask⟩ ⟨hhides, Or.inl hask⟩
  have hasked' : s'.Asked ↔ ¬ Unremarkable py config row := by
    have L := laterStagesOk_of_not_blocked py env hs hb
    have L' := laterStagesOk_of_not_blocked py env hs' hb'
    rw [asked_iff_rulesAsk py env hs' hb']
    exact rulesAsk_canonicalRow_iff L.cost L'.risk L.risk hask
  simp only [hb', hasked', hhides, hask, false_or, not_false_eq_true, true_and,
    imp_false, not_not]

/-! ## The shipped configuration and two spellings -/

theorem shippedConfig_canonical : CanonicalConfig .ascii shippedConfig where
  externalProviders := by
    intro provider hmem
    exact canonical_externalProvider .ascii hmem
  environmentMap := by
    intro environment pack h
    have hmem := Dict.mem_of_ofList h
    simp only [List.mem_cons, Prod.mk.injEq, List.not_mem_nil, or_false] at hmem
    rcases hmem with ⟨rfl, -⟩ | ⟨rfl, -⟩
    · exact canonical_production .ascii
    · exact PyRuntime.canonical_eq_self .ascii (by decide) (by decide)
  requireEnvironment := by
    intro name pack environment h hreq
    have hmem := Dict.mem_of_ofList h
    simp only [List.mem_cons, Prod.mk.injEq, List.not_mem_nil, or_false] at hmem
    rcases hmem with ⟨-, rfl⟩ | ⟨-, rfl⟩ | ⟨-, rfl⟩
    · cases hreq
      exact canonical_production .ascii
    · cases hreq
    · cases hreq

/-- A request of the shipped bundle whose pack is `production`. -/
def productionRequest (provider : String) : GovernanceEvaluateRequest :=
  { policyPack := "production", environment := "production", provider := provider }

/-- The canonical request evaluates to a block on the shipped bundle, and so does the
spelled one when a rule already blocks it. -/
theorem canonicalSpelling_le_iff_openai :
    ∃ r r',
      evaluateGovernanceRequest .ascii (plainEnv .block) shippedBundle none noCapabilities
        (productionRequest "OpenAI") = .ok r ∧
      evaluateGovernanceRequest .ascii (plainEnv .block) shippedBundle none noCapabilities
        (canonicalSpelling .ascii (productionRequest "OpenAI")) = .ok r' ∧
      (r'.finalVerdict ≤ r.finalVerdict ↔
        TelemetryBlocks none ∨
        PromptBlocks .ascii (toPipelineRow (productionRequest "OpenAI")) ∨
        OtherRulesBlock .ascii (plainEnv .block) shippedConfig none
          (toPipelineRow (productionRequest "OpenAI")) ∨
        (¬ HidesProvider .ascii shippedConfig (toPipelineRow (productionRequest "OpenAI")) ∧
          (RulesAsk .ascii (plainEnv .block) shippedConfig none
              (toPipelineRow (productionRequest "OpenAI")) ∨
            Unremarkable .ascii shippedConfig (toPipelineRow (productionRequest "OpenAI"))))) := by
  obtain ⟨r, h⟩ := exists_ok_of_isOk (evaluateGovernanceRequest .ascii (plainEnv .block)
    shippedBundle none noCapabilities (productionRequest "OpenAI")) (by decide +kernel)
  obtain ⟨r', h'⟩ := exists_ok_of_isOk (evaluateGovernanceRequest .ascii (plainEnv .block)
    shippedBundle none noCapabilities
    (canonicalSpelling .ascii (productionRequest "OpenAI"))) (by decide +kernel)
  exact ⟨r, r', h, h', canonicalSpelling_le_iff .ascii (plainEnv .block) shippedBundle
    shippedConfig none noCapabilities (productionRequest "OpenAI") r r' rfl
    shippedConfig_canonical h h'⟩

/-- Under a pack that blocks external providers `OpenAI` is only sent to approval while
`openai` is blocked; in the environment `Production` a request is allowed outright that in
`production` needs an approval. -/
theorem spelling_escapes :
    CanonicalConfig .ascii shippedConfig ∧
    shippedVerdict .block none (productionRequest "OpenAI") = some .approvalRequired ∧
    shippedVerdict .block none (canonicalSpelling .ascii (productionRequest "OpenAI"))
      = some .block ∧
    shippedVerdict .block none { policyPack := "development", environment := "Production" }
      = some .allow ∧
    shippedVerdict .block none (canonicalSpelling .ascii
      { policyPack := "development", environment := "Production" })
      = some .approvalRequired :=
  ⟨shippedConfig_canonical, by decide +kernel⟩

end ControlPlane.Spelling

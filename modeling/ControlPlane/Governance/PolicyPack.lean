/-
# The policy-pack engine (`governance/policy-packs/evaluate.py`)

A pack is chosen by the request or by its environment; its rules either block the
request or, given the risk level, ask for approval.  The engine runs twice in
the pipeline: before the other stages without a risk level, and after the risk
score with one.
-/
import ControlPlane.Request

namespace ControlPlane.PolicyPack

/-- `EXTERNAL_PROVIDERS`, the same set in the pack, approval and residency engines. -/
def externalProviders : List String := ["anthropic", "openai", "external"]

/-- The result of `evaluate_pack`. -/
structure PackResult where
  pack : String
  decision : StageDecision
  reasons : List String
  quotaMultiplier : ℚ
  minRiskForApproval : String
  /-- absent for an unknown pack -/
  approvalRequired : Option Bool
  deriving DecidableEq, Repr

variable (py : PyRuntime)

/-- `resolve_pack_name`. -/
def resolvePackName (row : PipelineRow) (config : PackConfig) : String :=
  let explicit := strip row.policyPack
  if explicit ≠ "" then explicit
  else match config.environmentMap (py.canonical row.environment) with
    | some mapped => if mapped ≠ "" then mapped else config.defaultPack
    | none => config.defaultPack

/-- `_risk_at_least`: an unknown minimum is never reached. -/
def riskAtLeast (level : RiskLevel) (minimum : String) : Bool :=
  match RiskLevel.ofName? minimum with
  | some m => m.index ≤ level.index
  | none => false

/-- The pack requires another environment than the row's. -/
def wrongEnvironment (row : PipelineRow) (pack : Entry) : Bool :=
  pack.truthy "require_environment" && pack "require_environment" ≠ some (.str row.environment)

/-- The pack blocks external providers and the row names one. -/
def blockedProvider (row : PipelineRow) (pack : Entry) : Bool :=
  pack.truthy "block_external_providers" && row.provider ∈ externalProviders

/-- The pack requires another region than the row's. -/
def wrongRegion (row : PipelineRow) (pack : Entry) : Bool :=
  pack.truthy "require_region" && pack "require_region" ≠ some (.str (strip row.region))

/-- The reasons for which a pack blocks a row. -/
def packReasons (row : PipelineRow) (packName : String) (pack : Entry)
    (registryModels : String → Bool) : List String :=
  reasonIf (wrongEnvironment row pack)
    ("policy pack " ++ packName ++ " requires environment "
      ++ py.str (pack.getD "require_environment" (.str "")))
  ++ reasonIf (blockedProvider row pack)
    ("policy pack " ++ packName ++ " blocks external providers")
  ++ reasonIf (pack.truthy "block_unknown_models" ∧ ¬ registryModels row.model)
    ("policy pack " ++ packName ++ " blocks unregistered model " ++ row.model)
  ++ reasonIf (pack.truthy "block_sensitive_data" ∧ row.sensitiveData)
    ("policy pack " ++ packName ++ " blocks sensitive data workloads")
  ++ reasonIf (wrongRegion row pack)
    ("policy pack " ++ packName ++ " requires region "
      ++ py.str (pack.getD "require_region" (.str "")))

/-- `str(pack.get("min_risk_for_approval", "high"))`. -/
def minRisk (pack : Entry) : String := py.str (pack.getD "min_risk_for_approval" (.str "high"))

/-- The pack asks for approval at the given risk level. -/
def packAsks (pack : Entry) (riskLevel : Option RiskLevel) : Bool :=
  riskLevel.elim false (fun level => riskAtLeast level (minRisk py pack))

/-- `evaluate_pack`. -/
def evaluatePack (row : PipelineRow) (config : PackConfig) (registryModels : String → Bool)
    (riskLevel : Option RiskLevel) : Except PyError PackResult :=
  let packName := resolvePackName py row config
  match config.packs packName with
  | none => .ok
      { pack := packName, decision := .block, reasons := ["unknown policy pack " ++ packName],
        quotaMultiplier := 1, minRiskForApproval := "high", approvalRequired := none }
  | some pack => do
    let reasons := packReasons py row packName pack registryModels
    let asks := packAsks py pack riskLevel
    let multiplier ← py.float (pack.getD "quota_multiplier" (.float 1))
    if reasons ≠ [] then
      return { pack := packName, decision := .block, reasons := reasons,
               quotaMultiplier := multiplier, minRiskForApproval := minRisk py pack,
               approvalRequired := some false }
    return { pack := packName,
             decision := if asks then .approvalRequired else .allow,
             reasons := ["policy pack " ++ packName ++ " checks passed"]
               ++ reasonIf asks ("policy pack " ++ packName
                 ++ " requires approval for risk level "
                 ++ riskLevel.elim "None" RiskLevel.name),
             quotaMultiplier := multiplier, minRiskForApproval := minRisk py pack,
             approvalRequired := some asks }

/-! ## What the engine decides -/

/-- The pack of the row blocks it, whatever the risk level. -/
def Blocks (row : PipelineRow) (config : PackConfig) (registryModels : String → Bool) : Prop :=
  match config.packs (resolvePackName py row config) with
  | none => True
  | some pack => packReasons py row (resolvePackName py row config) pack registryModels ≠ []

/-- The pack of the row asks for approval at the risk level. -/
def Asks (row : PipelineRow) (config : PackConfig) (riskLevel : Option RiskLevel) : Prop :=
  match config.packs (resolvePackName py row config) with
  | none => False
  | some pack => packAsks py pack riskLevel = true

/-- **Specification of `evaluate_pack`**: it blocks exactly when the pack has a
reason, and otherwise asks exactly when the risk level reaches the minimum. -/
theorem evaluatePack_decision {row : PipelineRow} {config : PackConfig}
    {registryModels : String → Bool} {riskLevel : Option RiskLevel} {res : PackResult}
    (h : evaluatePack py row config registryModels riskLevel = .ok res) :
    (res.decision = .block ↔ Blocks py row config registryModels) ∧
    (res.decision = .approvalRequired ↔
      ¬ Blocks py row config registryModels ∧ Asks py row config riskLevel) := by
  unfold evaluatePack at h
  unfold Blocks Asks
  cases hpack : config.packs (resolvePackName py row config) with
  | none =>
    simp only [hpack, Except.ok.injEq] at h
    subst h
    simp
  | some pack =>
    simp only [hpack] at h
    cases hm : py.float (pack.getD "quota_multiplier" (.float 1)) with
    | error e => simp [hm, bind, Except.bind] at h
    | ok m =>
      simp only [hm, bind, Except.bind, pure, Except.pure] at h
      split at h
      · rename_i hr
        simp only [Except.ok.injEq] at h
        subst h
        simp [hr]
      · rename_i hr
        simp only [Except.ok.injEq] at h
        subst h
        simp only [hr, not_false_eq_true, true_and]
        by_cases ha : packAsks py pack riskLevel = true <;> simp [ha]

/-- The quota multiplier of a pack; an unknown pack keeps the limits as they are. -/
def packMultiplier (config : PackConfig) (packName : String) : Except PyError ℚ :=
  match config.packs packName with
  | none => .ok 1
  | some pack => py.float (pack.getD "quota_multiplier" (.float 1))

/-- The multiplier of a result depends on the name of the pack alone. -/
theorem evaluatePack_multiplier {row : PipelineRow} {config : PackConfig}
    {registryModels : String → Bool} {riskLevel : Option RiskLevel} {res : PackResult}
    (h : evaluatePack py row config registryModels riskLevel = .ok res) :
    packMultiplier py config (resolvePackName py row config) = .ok res.quotaMultiplier := by
  unfold evaluatePack at h
  unfold packMultiplier
  cases hpack : config.packs (resolvePackName py row config) with
  | none =>
    simp only [hpack, Except.ok.injEq] at h
    subst h
    rfl
  | some pack =>
    simp only [hpack] at h
    rw [bind_eq_ok] at h
    obtain ⟨multiplier, hm, h⟩ := h
    show py.float (pack.getD "quota_multiplier" (.float 1)) = _
    rw [hm]
    split_ifs at h <;> rw [pure_eq_ok] at h <;> subst h <;> rfl

/-- Marking the data sensitive never unblocks a row. -/
theorem Blocks.mono {r₁ r₂ : PipelineRow} {config : PackConfig} {registryModels : String → Bool}
    (hpack : r₁.policyPack = r₂.policyPack) (henv : r₁.environment = r₂.environment)
    (hprov : r₁.provider = r₂.provider) (hmodel : r₁.model = r₂.model)
    (hregion : r₁.region = r₂.region) (hsens : r₁.sensitiveData = true → r₂.sensitiveData = true)
    (h : Blocks py r₁ config registryModels) : Blocks py r₂ config registryModels := by
  have hname : resolvePackName py r₁ config = resolvePackName py r₂ config := by
    unfold resolvePackName
    rw [hpack, henv]
  unfold Blocks at h ⊢
  rw [hname] at h
  cases hp : config.packs (resolvePackName py r₂ config) with
  | none => trivial
  | some pack =>
    simp only [hp] at h ⊢
    unfold packReasons wrongEnvironment blockedProvider wrongRegion at h ⊢
    rw [henv, hprov, hmodel, hregion] at h
    simp only [append_reasonIf_ne_nil] at h ⊢
    rcases h with (h | ⟨hb, hs⟩) | h
    · exact Or.inl (Or.inl h)
    · exact Or.inl (Or.inr ⟨hb, hsens hs⟩)
    · exact Or.inr h

/-- A higher level reaches every minimum a lower one reaches. -/
theorem riskAtLeast_mono {l₁ l₂ : RiskLevel} (h : l₁.index ≤ l₂.index) (minimum : String)
    (hr : riskAtLeast l₁ minimum = true) : riskAtLeast l₂ minimum = true := by
  unfold riskAtLeast at hr ⊢
  split at hr
  · rw [decide_eq_true_eq] at hr ⊢
    exact hr.trans h
  · exact absurd hr Bool.false_ne_true

theorem packAsks_mono {l₁ l₂ : RiskLevel} (h : l₁.index ≤ l₂.index) (pack : Entry)
    (ha : packAsks py pack (some l₁) = true) : packAsks py pack (some l₂) = true :=
  riskAtLeast_mono h _ ha

end ControlPlane.PolicyPack

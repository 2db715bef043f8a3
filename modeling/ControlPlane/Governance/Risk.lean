/-
# The risk engine (`governance/risk/evaluate.py`)

The score of a request is the sum of the weights of the factors that apply to
it, capped at one hundred; thresholds turn the score into a level.  Weights and
thresholds are read from the rules only when they are needed, so a missing one
raises on some requests and goes unnoticed on others.
-/
import ControlPlane.Request
import Mathlib.Tactic.Linarith

namespace ControlPlane.Risk

variable (py : PyRuntime)

/-- `DEPLOY_ACTIONS`, and `HIGH_RISK_ACTIONS` of the approval engine. -/
def deployActions : List String := ["deploy_model", "enable_external_model", "scale_replicas"]

/-- A factor that contributed to the score. -/
structure Factor where
  name : String
  points : ℤ
  reason : String
  deriving DecidableEq, Repr

/-- The bounded score with its level and factors. -/
structure RiskResult where
  score : ℤ
  level : RiskLevel
  factors : List Factor
  deriving DecidableEq, Repr

/-- `risk_level`. -/
def riskLevel (score : ℤ) (thresholds : Entry) : Except PyError RiskLevel := do
  let criticalMin ← py.intItem thresholds "critical_min"
  if criticalMin ≤ score then return .critical
  let highMin ← py.intItem thresholds "high_min"
  if highMin ≤ score then return .high
  let mediumMin ← py.intItem thresholds "medium_min"
  if mediumMin ≤ score then return .medium
  return .low

/-- `add_factor` under a condition; the weight is read only when it holds. -/
def addFactorIf (c : Prop) [Decidable c] (name : String) (weight : Except PyError ℤ)
    (reason : String) : Except PyError (List Factor) :=
  if c then do
    let points ← weight
    return [{ name := name, points := points, reason := reason }]
  else .ok []

/-- `int(weights.get(key, default))`. -/
def weightOr (weights : Entry) (key : String) (default : ℤ) : Except PyError ℤ :=
  py.int (weights.getD key (.int default))

/-- The request faces production. -/
def isProduction (row : PipelineRow) (rules : RiskRules) : Prop :=
  row.environment = "production" ∨ row.namespace ∈ rules.productionNamespaces
    ∨ endsWith row.namespace "-prod"

instance (row : PipelineRow) (rules : RiskRules) : Decidable (isProduction row rules) :=
  inferInstanceAs (Decidable (_ ∨ _ ∨ _))

/-- The tokens of a request, in and out. -/
def tokenVolume (row : PipelineRow) : ℤ := row.inputTokens + row.outputTokens

/-- The factor for the tier of a registered model. -/
def tierFactor (row : PipelineRow) (weights entry : Entry) : Except PyError (List Factor) :=
  if entry "risk_tier" = some (.str "critical") then
    addFactorIf True "registry_critical_tier" (weightOr py weights "high_cost_forecast" 20)
      ("model " ++ row.model ++ " is tagged critical in the registry")
  else
    addFactorIf (entry "risk_tier" = some (.str "high")) "registry_high_tier"
      (weightOr py weights "external_provider" 15)
      ("model " ++ row.model ++ " is tagged high risk in the registry")

/-- The factors that depend on the model registry. -/
def registryFactors (row : PipelineRow) (weights : Entry) (registry : Dict Entry) :
    Except PyError (List Factor) :=
  match registry row.model with
  | none =>
    addFactorIf True "unregistered_model" (weightOr py weights "missing_owner" 10)
      ("model " ++ row.model ++ " is not in the risk registry")
  | some entry => do
    let tier ← tierFactor py row weights entry
    let pii ← addFactorIf (row.sensitiveData = true ∧ entry.truthy "pii_allowed" = false)
      "registry_pii_denied" (py.intItem weights "sensitive_data")
      ("model " ++ row.model ++ " does not allow sensitive data")
    return tier ++ pii

/-- Run the steps in order and collect their factors. -/
def gather : List (Except PyError (List Factor)) → Except PyError (List Factor)
  | [] => .ok []
  | step :: steps => do
    let factors ← step
    let rest ← gather steps
    return factors ++ rest

/-- All factors of a request, in the order they are added. -/
def riskFactors (row : PipelineRow) (rules : RiskRules) (registry : Dict Entry) :
    Except PyError (List Factor) :=
  let weights := rules.scoreWeights
  gather [
    addFactorIf (row.owner = "") "missing_owner" (py.intItem weights "missing_owner")
      "request has no responsible owner",
    addFactorIf (row.provider ∈ rules.externalProviders) "external_provider"
      (py.intItem weights "external_provider") ("provider " ++ row.provider ++ " is external"),
    addFactorIf (isProduction row rules) "production_namespace"
      (py.intItem weights "production_namespace")
      ("namespace " ++ row.namespace ++ " is production-facing"),
    do
      let threshold ← py.intItem rules.thresholds "high_token_volume"
      addFactorIf (threshold ≤ tokenVolume row) "high_token_volume"
        (py.intItem weights "high_token_volume")
        ("token volume " ++ toString (tokenVolume row) ++ " exceeds threshold"),
    do
      let threshold ← py.floatItem rules.thresholds "high_cost_forecast_usd"
      addFactorIf (threshold ≤ row.forecastMonthlyCostUsd) "high_cost_forecast"
        (py.intItem weights "high_cost_forecast") "forecasted monthly cost exceeds threshold",
    addFactorIf (row.sensitiveData = true) "sensitive_data" (py.intItem weights "sensitive_data")
      "request may process sensitive data",
    addFactorIf (row.toolAccess = true) "tool_access" (py.intItem weights "tool_access")
      "request enables tool access",
    addFactorIf (row.writePermission = true) "write_permission"
      (py.intItem weights "write_permission") "request grants write permission",
    addFactorIf (row.action ∈ deployActions) "deploy_permission"
      (py.intItem weights "deploy_permission")
      ("action " ++ row.action ++ " can change serving state"),
    registryFactors py row weights registry]

/-- The sum of the points of a list of factors. -/
def totalPoints (factors : List Factor) : ℤ := (factors.map Factor.points).sum

/-- `evaluate_request` of the risk engine. -/
def evaluateRequest (row : PipelineRow) (rules : RiskRules) (registry : Dict Entry) :
    Except PyError RiskResult := do
  let factors ← riskFactors py row rules registry
  let boundedScore := min (totalPoints factors) 100
  let level ← riskLevel py boundedScore rules.thresholds
  return { score := boundedScore, level := level, factors := factors }

/-! ## The level grows with the score -/

/-- **A higher score never has a lower level**, in whatever order the thresholds are. -/
theorem riskLevel_mono {s₁ s₂ : ℤ} {thresholds : Entry} {l₁ l₂ : RiskLevel} (hs : s₁ ≤ s₂)
    (h₁ : riskLevel py s₁ thresholds = .ok l₁) (h₂ : riskLevel py s₂ thresholds = .ok l₂) :
    l₁.index ≤ l₂.index := by
  unfold riskLevel at h₁ h₂
  rw [bind_eq_ok] at h₁ h₂
  obtain ⟨c, hc, h₁⟩ := h₁
  obtain ⟨c', hc', h₂⟩ := h₂
  rw [hc, Except.ok.injEq] at hc'
  subst hc'
  by_cases hcrit : c ≤ s₂
  · rw [if_pos hcrit, pure_eq_ok] at h₂
    subst h₂
    cases l₁ <;> decide
  rw [if_neg hcrit, bind_eq_ok] at h₂
  rw [if_neg (fun h => hcrit (h.trans hs)), bind_eq_ok] at h₁
  obtain ⟨m, hm, h₁⟩ := h₁
  obtain ⟨m', hm', h₂⟩ := h₂
  rw [hm, Except.ok.injEq] at hm'
  subst hm'
  by_cases hhigh : m ≤ s₁
  · rw [if_pos hhigh, pure_eq_ok] at h₁
    rw [if_pos (hhigh.trans hs), pure_eq_ok] at h₂
    subst h₁ h₂
    exact le_rfl
  rw [if_neg hhigh, bind_eq_ok] at h₁
  obtain ⟨d, hd, h₁⟩ := h₁
  by_cases hhigh₂ : m ≤ s₂
  · rw [if_pos hhigh₂, pure_eq_ok] at h₂
    subst h₂
    split_ifs at h₁ <;> rw [pure_eq_ok] at h₁ <;> subst h₁ <;> decide
  rw [if_neg hhigh₂, bind_eq_ok] at h₂
  obtain ⟨d', hd', h₂⟩ := h₂
  rw [hd, Except.ok.injEq] at hd'
  subst hd'
  by_cases hmed : d ≤ s₁
  · rw [if_pos hmed, pure_eq_ok] at h₁
    rw [if_pos (hmed.trans hs), pure_eq_ok] at h₂
    subst h₁ h₂
    exact le_rfl
  · rw [if_neg hmed, pure_eq_ok] at h₁
    subst h₁
    exact Nat.zero_le _

/-! ## The score grows with the factors that apply -/

theorem totalPoints_append (f g : List Factor) :
    totalPoints (f ++ g) = totalPoints f + totalPoints g := by
  rw [totalPoints, List.map_append, List.sum_append, totalPoints, totalPoints]

/-- A factor that applies contributes its weight, any other nothing. -/
theorem totalPoints_addFactorIf {c : Prop} [Decidable c] {name reason : String}
    {weight : Except PyError ℤ} {f : List Factor}
    (h : addFactorIf c name weight reason = .ok f) :
    (c ∧ ∃ w, weight = .ok w ∧ totalPoints f = w) ∨ (¬ c ∧ totalPoints f = 0) := by
  unfold addFactorIf at h
  by_cases hc : c
  · rw [if_pos hc, bind_eq_ok] at h
    obtain ⟨w, hw, h⟩ := h
    rw [pure_eq_ok] at h
    subst h
    exact Or.inl ⟨hc, w, hw, by simp [totalPoints]⟩
  · rw [if_neg hc, Except.ok.injEq] at h
    subst h
    exact Or.inr ⟨hc, rfl⟩

/-- Whenever both computations succeed, the second gives at least as many points. -/
def PointsLe (x y : Except PyError (List Factor)) : Prop :=
  ∀ f g, x = .ok f → y = .ok g → totalPoints f ≤ totalPoints g

theorem PointsLe.refl (x : Except PyError (List Factor)) : PointsLe x x := by
  intro f g hf hg
  rw [hf, Except.ok.injEq] at hg
  rw [hg]

/-- A value both computations read first is the same on both sides. -/
theorem PointsLe.bind {α : Type} {a : Except PyError α}
    {x y : α → Except PyError (List Factor)} (h : ∀ v, PointsLe (x v) (y v)) :
    PointsLe (a >>= x) (a >>= y) := by
  intro f g hf hg
  rw [bind_eq_ok] at hf hg
  obtain ⟨v, hv, hf⟩ := hf
  obtain ⟨v', hv', hg⟩ := hg
  rw [hv, Except.ok.injEq] at hv'
  subst hv'
  exact h v f g hf hg

/-- When the weight is nonnegative, a condition that holds more often adds more. -/
theorem PointsLe.addFactorIf {c₁ c₂ : Prop} [Decidable c₁] [Decidable c₂]
    {name₁ name₂ reason₁ reason₂ : String} {weight : Except PyError ℤ}
    (hweight : ∀ w, weight = .ok w → 0 ≤ w) (hc : c₁ → c₂) :
    PointsLe (addFactorIf c₁ name₁ weight reason₁) (addFactorIf c₂ name₂ weight reason₂) := by
  intro f₁ f₂ h₁ h₂
  rcases totalPoints_addFactorIf h₁ with ⟨hc₁, w₁, hw₁, ht₁⟩ | ⟨-, ht₁⟩ <;>
    rcases totalPoints_addFactorIf h₂ with ⟨-, w₂, hw₂, ht₂⟩ | ⟨hc₂, ht₂⟩
  · rw [hw₁, Except.ok.injEq] at hw₂
    omega
  · exact absurd (hc hc₁) hc₂
  · rw [ht₁, ht₂]
    exact hweight _ hw₂
  · rw [ht₁, ht₂]

/-- Steps that add more points one by one add more points together. -/
theorem PointsLe.gather {xs ys : List (Except PyError (List Factor))}
    (h : List.Forall₂ PointsLe xs ys) : PointsLe (gather xs) (gather ys) := by
  induction h with
  | nil => exact PointsLe.refl _
  | @cons x y xs ys hxy _ ih =>
    intro f g hf hg
    rw [Risk.gather, bind_eq_ok] at hf hg
    obtain ⟨f₁, hf₁, hf⟩ := hf
    obtain ⟨g₁, hg₁, hg⟩ := hg
    rw [bind_eq_ok] at hf hg
    obtain ⟨f₂, hf₂, hf⟩ := hf
    obtain ⟨g₂, hg₂, hg⟩ := hg
    rw [pure_eq_ok] at hf hg
    subst hf hg
    rw [totalPoints_append, totalPoints_append]
    exact add_le_add (hxy _ _ hf₁ hg₁) (ih _ _ hf₂ hg₂)

/-- The keys of the score weights. -/
def weightKeys : List String :=
  ["missing_owner", "external_provider", "production_namespace", "high_token_volume",
    "high_cost_forecast", "sensitive_data", "tool_access", "write_permission",
    "deploy_permission"]

/-- Every score weight is defined as a nonnegative number. -/
def NonnegWeights (weights : Entry) : Prop :=
  ∀ key ∈ weightKeys, ∃ v w, weights key = some v ∧ py.int v = .ok w ∧ 0 ≤ w

section Nonneg

variable {py} {weights : Entry} (hw : NonnegWeights py weights)

include hw

theorem NonnegWeights.intItem {key : String} (hk : key ∈ weightKeys) (w : ℤ)
    (h : py.intItem weights key = .ok w) : 0 ≤ w := by
  obtain ⟨v, w', hv, hi, hle⟩ := hw key hk
  rw [PyRuntime.intItem, Dict.item, hv] at h
  have h' : py.int v = .ok w := h
  rw [hi, Except.ok.injEq] at h'
  omega

theorem NonnegWeights.weightOr {key : String} (hk : key ∈ weightKeys) (default w : ℤ)
    (h : weightOr py weights key default = .ok w) : 0 ≤ w := by
  obtain ⟨v, w', hv, hi, hle⟩ := hw key hk
  rw [Risk.weightOr, Dict.getD, hv, Option.getD_some, hi, Except.ok.injEq] at h
  omega

theorem registryFactors_mono {r₁ r₂ : PipelineRow} {registry : Dict Entry}
    (hmodel : r₁.model = r₂.model) (hsens : r₁.sensitiveData = true → r₂.sensitiveData = true) :
    PointsLe (registryFactors py r₁ weights registry)
      (registryFactors py r₂ weights registry) := by
  unfold registryFactors tierFactor
  rw [hmodel]
  cases registry r₂.model with
  | none => exact PointsLe.refl _
  | some entry =>
    apply PointsLe.bind
    intro tier f g hf hg
    rw [bind_eq_ok] at hf hg
    obtain ⟨f', hf', hf⟩ := hf
    obtain ⟨g', hg', hg⟩ := hg
    rw [pure_eq_ok] at hf hg
    subst hf hg
    rw [totalPoints_append, totalPoints_append]
    have hpii := PointsLe.addFactorIf (hw.intItem (by decide))
      (And.imp_left hsens) f' g' hf' hg'
    omega

/-- **More volume, cost, data and permissions never lower the risk level**, when
every weight is nonnegative. -/
theorem evaluateRequest_mono {r₁ r₂ : PipelineRow} {rules : RiskRules} {registry : Dict Entry}
    {k₁ k₂ : RiskResult} (hrules : rules.scoreWeights = weights)
    (howner : r₁.owner = r₂.owner) (hprov : r₁.provider = r₂.provider)
    (henv : r₁.environment = r₂.environment) (hns : r₁.namespace = r₂.namespace)
    (hmodel : r₁.model = r₂.model) (haction : r₁.action = r₂.action)
    (htok : tokenVolume r₁ ≤ tokenVolume r₂)
    (hforecast : r₁.forecastMonthlyCostUsd ≤ r₂.forecastMonthlyCostUsd)
    (hsens : r₁.sensitiveData = true → r₂.sensitiveData = true)
    (htool : r₁.toolAccess = true → r₂.toolAccess = true)
    (hwrite : r₁.writePermission = true → r₂.writePermission = true)
    (h₁ : evaluateRequest py r₁ rules registry = .ok k₁)
    (h₂ : evaluateRequest py r₂ rules registry = .ok k₂) :
    k₁.level.index ≤ k₂.level.index := by
  unfold evaluateRequest at h₁ h₂
  rw [bind_eq_ok] at h₁ h₂
  obtain ⟨f₁, hf₁, h₁⟩ := h₁
  obtain ⟨f₂, hf₂, h₂⟩ := h₂
  rw [bind_eq_ok] at h₁ h₂
  obtain ⟨l₁, hl₁, h₁⟩ := h₁
  obtain ⟨l₂, hl₂, h₂⟩ := h₂
  rw [pure_eq_ok] at h₁ h₂
  subst h₁ h₂
  have hpoints : PointsLe (riskFactors py r₁ rules registry)
      (riskFactors py r₂ rules registry) := by
    unfold riskFactors
    simp only [hrules]
    apply PointsLe.gather
    refine .cons ?_ (.cons ?_ (.cons ?_ (.cons ?_ (.cons ?_ (.cons ?_ (.cons ?_ (.cons ?_
      (.cons ?_ (.cons ?_ .nil)))))))))
    · exact PointsLe.addFactorIf (hw.intItem (by decide)) (fun h => howner ▸ h)
    · exact PointsLe.addFactorIf (hw.intItem (by decide)) (fun h => hprov ▸ h)
    · apply PointsLe.addFactorIf (hw.intItem (by decide))
      unfold isProduction
      rw [henv, hns]
      exact id
    · apply PointsLe.bind
      intro t
      exact PointsLe.addFactorIf (hw.intItem (by decide)) (fun h => h.trans htok)
    · apply PointsLe.bind
      intro t
      exact PointsLe.addFactorIf (hw.intItem (by decide)) (fun h => h.trans hforecast)
    · exact PointsLe.addFactorIf (hw.intItem (by decide)) hsens
    · exact PointsLe.addFactorIf (hw.intItem (by decide)) htool
    · exact PointsLe.addFactorIf (hw.intItem (by decide)) hwrite
    · exact PointsLe.addFactorIf (hw.intItem (by decide)) (fun h => haction ▸ h)
    · exact registryFactors_mono hw hmodel hsens
  have hscore : min (totalPoints f₁) 100 ≤ min (totalPoints f₂) 100 :=
    min_le_min_right 100 (hpoints f₁ f₂ hf₁ hf₂)
  exact riskLevel_mono py hscore hl₁ hl₂

end Nonneg

end ControlPlane.Risk

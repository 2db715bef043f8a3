/-
# The cost engine (`governance/cost/evaluate.py`)

Usage is compared with the budget of the team and with the hard limits of the
platform.  Each comparison has two thresholds: above the first the request is
blocked, between them it is warned about.
-/
import ControlPlane.Request
import Mathlib.Tactic.Linarith

namespace ControlPlane.Cost

variable (py : PyRuntime)

/-- Where a value lies relative to a hard limit and a warning threshold. -/
inductive Band where
  | under
  | near
  | over
  deriving DecidableEq, Repr

/-- The band of a value for a platform limit.  The warning threshold is read
only when the hard limit holds. -/
def limitBand (value : ℚ) (policy : Entry) (maxKey warnKey : String) : Except PyError Band := do
  let hard ← py.floatItem policy maxKey
  if hard < value then return .over
  let warn ← py.floatItem policy warnKey
  return if warn ≤ value then .near else .under

/-- The band of the month's spend for the budget of a team. -/
def budgetBand (spend : ℚ) (teamPolicy : Entry) : Except PyError Band := do
  let monthlyBudget ← py.floatItem teamPolicy "monthly_budget_usd"
  let warnAtPercent ← py.floatItem teamPolicy "warn_at_percent"
  let warnThreshold := monthlyBudget * (warnAtPercent / 100)
  return if monthlyBudget < spend then .over
    else if warnThreshold ≤ spend then .near else .under

/-- The blocking reasons and the warnings of the team's own policy. -/
def teamFindings (row : PipelineRow) (policies : CostPolicies) :
    Except PyError (List String × List String) :=
  match policies.teams row.team with
  | none => .ok (["team " ++ row.team ++ " has no cost governance policy"], [])
  | some teamPolicy => do
    let allowedModels ← (teamPolicy.getD "allowed_models" (.list [])).toList
    let budget ← budgetBand py row.monthToDateCostUsd teamPolicy
    return (reasonIf (row.model ∉ allowedModels)
        ("model " ++ row.model ++ " is not approved for team " ++ row.team)
      ++ reasonIf (budget = .over) ("team " ++ row.team ++ " monthly budget exceeded"),
      reasonIf (budget = .near) ("team " ++ row.team ++ " is near monthly budget"))

/-- `evaluate_row`. -/
def evaluateRow (row : PipelineRow) (policies : CostPolicies) : Except PyError StageResult := do
  let (teamReasons, teamWarnings) ← teamFindings py row policies
  let hourly ← limitBand py row.costPerHourUsd policies.global
    "max_model_hourly_cost_usd" "warn_model_hourly_cost_usd"
  let forecast ← limitBand py row.forecastMonthlyCostUsd policies.global
    "max_forecast_monthly_cost_usd" "warn_forecast_monthly_cost_usd"
  let reasons := teamReasons
    ++ reasonIf (hourly = .over) "model hourly cost exceeds hard limit"
    ++ reasonIf (forecast = .over) "forecasted monthly cost exceeds platform hard limit"
  let warnings := teamWarnings
    ++ reasonIf (hourly = .near) "model hourly cost is near hard limit"
    ++ reasonIf (forecast = .near) "forecasted monthly cost is near platform hard limit"
  return ruling .warn reasons warnings "usage is within governance limits"

/-- The cost engine blocks, warns or allows; it does not ask for approval itself. -/
theorem evaluateRow_ne_approvalRequired {row : PipelineRow} {policies : CostPolicies}
    {c : StageResult} (h : evaluateRow py row policies = .ok c) :
    c.decision ≠ .approvalRequired := by
  unfold evaluateRow at h
  simp only [bind_eq_ok, pure_eq_ok] at h
  obtain ⟨_, -, _, -, _, -, rfl⟩ := h
  unfold ruling
  split_ifs <;> simp

/-! ## Larger costs are never judged more mildly -/

/-- The order of the bands, as two implications. -/
def BandLe (b₁ b₂ : Band) : Prop := (b₁ = .over → b₂ = .over) ∧ (b₁ = .near → b₂ ≠ .under)

theorem over_or_near {b : Band} (h : b ≠ .under) : b = .over ∨ b = .near := by
  cases b <;> simp_all

theorem limitBand_mono {v₁ v₂ : ℚ} {policy : Entry} {maxKey warnKey : String} {b₁ b₂ : Band}
    (hv : v₁ ≤ v₂) (h₁ : limitBand py v₁ policy maxKey warnKey = .ok b₁)
    (h₂ : limitBand py v₂ policy maxKey warnKey = .ok b₂) : BandLe b₁ b₂ := by
  unfold limitBand at h₁ h₂
  rw [bind_eq_ok] at h₁ h₂
  obtain ⟨hard, hh, h₁⟩ := h₁
  obtain ⟨hard', hh', h₂⟩ := h₂
  rw [hh, Except.ok.injEq] at hh'
  subst hh'
  by_cases hover : hard < v₂
  · rw [if_pos hover, pure_eq_ok] at h₂
    subst h₂
    exact ⟨fun _ => rfl, fun _ => by decide⟩
  · have hunder : ¬ hard < v₁ := fun h => hover (h.trans_le hv)
    rw [if_neg hover, bind_eq_ok] at h₂
    rw [if_neg hunder, bind_eq_ok] at h₁
    obtain ⟨warn, hw, h₁⟩ := h₁
    obtain ⟨warn', hw', h₂⟩ := h₂
    rw [hw, Except.ok.injEq] at hw'
    subst hw'
    rw [pure_eq_ok] at h₁ h₂
    subst h₁ h₂
    by_cases hnear : warn ≤ v₁
    · rw [if_pos hnear, if_pos (hnear.trans hv)]
      exact ⟨id, fun _ => by decide⟩
    · rw [if_neg hnear]
      exact ⟨fun h => absurd h (by decide), fun h => absurd h (by decide)⟩

theorem budgetBand_mono {s₁ s₂ : ℚ} {teamPolicy : Entry} {b₁ b₂ : Band} (hs : s₁ ≤ s₂)
    (h₁ : budgetBand py s₁ teamPolicy = .ok b₁) (h₂ : budgetBand py s₂ teamPolicy = .ok b₂) :
    BandLe b₁ b₂ := by
  unfold budgetBand at h₁ h₂
  rw [bind_eq_ok] at h₁ h₂
  obtain ⟨budget, hb, h₁⟩ := h₁
  obtain ⟨budget', hb', h₂⟩ := h₂
  rw [hb, Except.ok.injEq] at hb'
  subst hb'
  rw [bind_eq_ok] at h₁ h₂
  obtain ⟨percent, hp, h₁⟩ := h₁
  obtain ⟨percent', hp', h₂⟩ := h₂
  rw [hp, Except.ok.injEq] at hp'
  subst hp'
  rw [pure_eq_ok] at h₁ h₂
  subst h₁ h₂
  have hover : budget < s₁ → budget < s₂ := fun h => h.trans_le hs
  have hnear : budget * (percent / 100) ≤ s₁ → budget * (percent / 100) ≤ s₂ :=
    fun h => h.trans hs
  unfold BandLe
  split_ifs <;> simp_all

/-- The findings of the team's policy grow with the month's spend. -/
theorem teamFindings_mono {r₁ r₂ : PipelineRow} {policies : CostPolicies}
    {f₁ f₂ : List String × List String} (hteam : r₁.team = r₂.team)
    (hmodel : r₁.model = r₂.model) (hspend : r₁.monthToDateCostUsd ≤ r₂.monthToDateCostUsd)
    (h₁ : teamFindings py r₁ policies = .ok f₁) (h₂ : teamFindings py r₂ policies = .ok f₂) :
    (f₁.1 ≠ [] → f₂.1 ≠ []) ∧ (f₁.2 ≠ [] → f₂.1 ≠ [] ∨ f₂.2 ≠ []) := by
  unfold teamFindings at h₁ h₂
  rw [hteam, hmodel] at h₁
  cases ht : policies.teams r₂.team with
  | none =>
    rw [ht] at h₁ h₂
    rw [Except.ok.injEq] at h₁ h₂
    subst h₁ h₂
    simp
  | some teamPolicy =>
    simp only [ht] at h₁ h₂
    rw [bind_eq_ok] at h₁ h₂
    obtain ⟨models, hm, h₁⟩ := h₁
    obtain ⟨models', hm', h₂⟩ := h₂
    rw [hm, Except.ok.injEq] at hm'
    subst hm'
    rw [bind_eq_ok] at h₁ h₂
    obtain ⟨b₁, hb₁, h₁⟩ := h₁
    obtain ⟨b₂, hb₂, h₂⟩ := h₂
    rw [pure_eq_ok] at h₁ h₂
    subst h₁ h₂
    have hband := budgetBand_mono py hspend hb₁ hb₂
    simp only [ne_eq, List.append_eq_nil_iff, reasonIf_eq_nil]
    rcases hband with ⟨hover, hnear⟩
    cases b₁ <;> cases b₂ <;> simp_all

/-- **Larger costs are never judged more mildly by the cost engine.** -/
theorem evaluateRow_mono {r₁ r₂ : PipelineRow} {policies : CostPolicies} {c₁ c₂ : StageResult}
    (hteam : r₁.team = r₂.team) (hmodel : r₁.model = r₂.model)
    (hspend : r₁.monthToDateCostUsd ≤ r₂.monthToDateCostUsd)
    (hhour : r₁.costPerHourUsd ≤ r₂.costPerHourUsd)
    (hforecast : r₁.forecastMonthlyCostUsd ≤ r₂.forecastMonthlyCostUsd)
    (h₁ : evaluateRow py r₁ policies = .ok c₁) (h₂ : evaluateRow py r₂ policies = .ok c₂) :
    c₁.decision ≤ c₂.decision := by
  unfold evaluateRow at h₁ h₂
  rw [bind_eq_ok] at h₁ h₂
  obtain ⟨f₁, hf₁, h₁⟩ := h₁
  obtain ⟨f₂, hf₂, h₂⟩ := h₂
  rw [bind_eq_ok] at h₁ h₂
  obtain ⟨hour₁, hh₁, h₁⟩ := h₁
  obtain ⟨hour₂, hh₂, h₂⟩ := h₂
  rw [bind_eq_ok] at h₁ h₂
  obtain ⟨fore₁, hfc₁, h₁⟩ := h₁
  obtain ⟨fore₂, hfc₂, h₂⟩ := h₂
  rw [pure_eq_ok] at h₁ h₂
  subst h₁ h₂
  obtain ⟨hteamR, hteamW⟩ := teamFindings_mono py hteam hmodel hspend hf₁ hf₂
  obtain ⟨hourOver, hourNear⟩ := limitBand_mono py hhour hh₁ hh₂
  obtain ⟨foreOver, foreNear⟩ := limitBand_mono py hforecast hfc₁ hfc₂
  apply ruling_mono
  · simp only [append_reasonIf_ne_nil]
    rintro ((h | h) | h)
    · exact Or.inl (Or.inl (hteamR h))
    · exact Or.inl (Or.inr (hourOver h))
    · exact Or.inr (foreOver h)
  · simp only [append_reasonIf_ne_nil]
    rintro ((h | h) | h)
    · rcases hteamW h with h | h
      · exact Or.inl (Or.inl (Or.inl h))
      · exact Or.inr (Or.inl (Or.inl h))
    · rcases over_or_near (hourNear h) with h | h
      · exact Or.inl (Or.inl (Or.inr h))
      · exact Or.inr (Or.inl (Or.inr h))
    · rcases over_or_near (foreNear h) with h | h
      · exact Or.inl (Or.inr h)
      · exact Or.inr (Or.inr h)

end ControlPlane.Cost

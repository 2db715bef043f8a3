/-
# The tenant quota engine (`governance/quota/evaluate.py`)

A team without a quota policy is blocked; an onboarded team is blocked when a
request rate, token, budget or data rule of its policy is violated.  The engine
itself never asks for approval.
-/
import ControlPlane.Request

namespace ControlPlane.Quota

variable (py : PyRuntime)

/-- The limits of a tenant after the pack's multiplier. -/
structure QuotaLimits where
  rpmLimit : ℤ
  tokenLimit : ℤ
  budget : Option (Scalar × ℚ)
  deriving DecidableEq, Repr

/-- `int(limit * multiplier)` for a nonzero limit. -/
def scaleLimit (multiplier : ℚ) (limit : ℤ) : ℤ :=
  if limit ≠ 0 then (limit * multiplier : ℚ).num.tdiv (limit * multiplier : ℚ).den else limit

/-- The limits of a tenant, scaled by the multiplier of the policy pack. -/
def quotaLimits (tenant : Entry) (multiplier : ℚ) : Except PyError QuotaLimits := do
  let rpmLimit ← py.int (tenant.getD "requests_per_minute" (.int 0))
  let tokenLimit ← py.int (tenant.getD "tokens_per_day" (.int 0))
  let budget ← match tenant "max_monthly_budget_usd" with
    | none => pure none
    | some b => do
      let q ← py.float b
      pure (some (b, q))
  return { rpmLimit := scaleLimit multiplier rpmLimit,
           tokenLimit := scaleLimit multiplier tokenLimit,
           budget := budget }

/-- The tokens the team would have used today after the request. -/
def projectedTokens (row : PipelineRow) : ℤ :=
  row.tokensToday + (row.inputTokens + row.outputTokens)

/-- The spend of the month after the request. -/
def projectedSpend (row : PipelineRow) : ℚ := row.monthToDateCostUsd + row.costPerRequestUsd

/-- The requests of the last minute have reached the limit. -/
def overRpm (row : PipelineRow) (limits : QuotaLimits) : Prop :=
  limits.rpmLimit ≠ 0 ∧ limits.rpmLimit ≤ row.requestsLastMinute

/-- The tokens of the day would pass the limit. -/
def overTokens (row : PipelineRow) (limits : QuotaLimits) : Prop :=
  limits.tokenLimit ≠ 0 ∧ limits.tokenLimit < projectedTokens row

/-- The spend of the month would pass the budget. -/
def overBudget (row : PipelineRow) (limits : QuotaLimits) : Prop :=
  ∃ b ∈ limits.budget, b.2 < projectedSpend row

/-- The request has sensitive data, and the tenant may not send any. -/
def sensitiveForbidden (row : PipelineRow) (tenant : Entry) : Prop :=
  row.sensitiveData = true ∧ tenant.truthy "sensitive_data_allowed" = false

instance (row : PipelineRow) (limits : QuotaLimits) : Decidable (overRpm row limits) :=
  inferInstanceAs (Decidable (_ ∧ _))

instance (row : PipelineRow) (limits : QuotaLimits) : Decidable (overTokens row limits) :=
  inferInstanceAs (Decidable (_ ∧ _))

instance (row : PipelineRow) (limits : QuotaLimits) : Decidable (overBudget row limits) :=
  inferInstanceAs (Decidable (∃ b ∈ limits.budget, b.2 < projectedSpend row))

instance (row : PipelineRow) (tenant : Entry) : Decidable (sensitiveForbidden row tenant) :=
  inferInstanceAs (Decidable (_ ∧ _))

/-- The reasons for which the quota policy blocks a row. -/
def quotaReasons (row : PipelineRow) (tenant : Entry) (limits : QuotaLimits) : List String :=
  reasonIf (overRpm row limits)
    ("team " ++ row.team ++ " exceeded requests_per_minute ("
      ++ toString row.requestsLastMinute ++ "/" ++ toString limits.rpmLimit ++ ")")
  ++ reasonIf (overTokens row limits)
    ("team " ++ row.team ++ " would exceed tokens_per_day ("
      ++ toString (projectedTokens row) ++ "/" ++ toString limits.tokenLimit ++ ")")
  ++ reasonIf (overBudget row limits)
    ("team " ++ row.team ++ " would exceed max_monthly_budget_usd ("
      ++ py.reprFloat (projectedSpend row) ++ "/"
      ++ limits.budget.elim "None" (fun b => py.str b.1) ++ ")")
  ++ reasonIf (sensitiveForbidden row tenant)
    ("team " ++ row.team ++ " is not allowed to process sensitive data")

/-- `evaluate_request` of the quota engine. -/
def evaluateRequest (row : PipelineRow) (policies : Dict Entry) (packQuotaMultiplier : ℚ) :
    Except PyError StageResult :=
  match policies row.team with
  | none => .ok
      { decision := .block,
        reasons := ["team " ++ row.team ++ " is not onboarded for tenant quotas"] }
  | some tenant => do
    let limits ← quotaLimits py tenant packQuotaMultiplier
    let reasons := quotaReasons py row tenant limits
    if reasons ≠ [] then return { decision := .block, reasons := reasons }
    return { decision := .allow, reasons := ["tenant quota checks passed"] }

/-! ## What the engine decides -/

theorem quotaReasons_ne_nil (row : PipelineRow) (tenant : Entry) (limits : QuotaLimits) :
    quotaReasons py row tenant limits ≠ [] ↔
      overRpm row limits ∨ overTokens row limits ∨ overBudget row limits
        ∨ sensitiveForbidden row tenant := by
  simp only [quotaReasons, ne_eq, List.append_eq_nil_iff, reasonIf_eq_nil]
  tauto

/-- **Specification of the quota engine**: it blocks a team that is not onboarded
or that breaks a rule of its policy, and allows everything else. -/
theorem evaluateRequest_decision {row : PipelineRow} {policies : Dict Entry} {m : ℚ}
    {res : StageResult} (h : evaluateRequest py row policies m = .ok res) :
    (policies row.team = none ∧ res.decision = .block) ∨
    ∃ tenant limits, policies row.team = some tenant ∧ quotaLimits py tenant m = .ok limits ∧
      res.decision = if quotaReasons py row tenant limits ≠ [] then .block else .allow := by
  unfold evaluateRequest at h
  cases ht : policies row.team with
  | none =>
    simp only [ht, Except.ok.injEq] at h
    subst h
    exact Or.inl ⟨rfl, rfl⟩
  | some tenant =>
    simp only [ht] at h
    cases hl : quotaLimits py tenant m with
    | error e => simp [hl, bind, Except.bind] at h
    | ok limits =>
      simp only [hl, bind, Except.bind, pure, Except.pure] at h
      refine Or.inr ⟨tenant, limits, rfl, hl, ?_⟩
      split at h <;> rename_i hr <;> simp only [Except.ok.injEq] at h <;> subst h
      · rw [if_pos hr]
      · rw [if_neg hr]

/-- The engine blocks or allows; it never asks for approval. -/
theorem evaluateRequest_block_or_allow {row : PipelineRow} {policies : Dict Entry} {m : ℚ}
    {res : StageResult} (h : evaluateRequest py row policies m = .ok res) :
    res.decision = .block ∨ res.decision = .allow := by
  rcases evaluateRequest_decision py h with ⟨-, hb⟩ | ⟨_, _, -, -, hd⟩
  · exact Or.inl hb
  · rw [hd]
    split
    · exact Or.inl rfl
    · exact Or.inr rfl

/-- A row with larger counters, tokens and costs and more sensitive data breaks
every rule the smaller one breaks. -/
theorem evaluateRequest_block_mono {r₁ r₂ : PipelineRow} {policies : Dict Entry} {m : ℚ}
    {q₁ q₂ : StageResult} (hteam : r₁.team = r₂.team)
    (hreq : r₁.requestsLastMinute ≤ r₂.requestsLastMinute)
    (htok : projectedTokens r₁ ≤ projectedTokens r₂)
    (hcost : projectedSpend r₁ ≤ projectedSpend r₂)
    (hsens : r₁.sensitiveData = true → r₂.sensitiveData = true)
    (h₁ : evaluateRequest py r₁ policies m = .ok q₁)
    (h₂ : evaluateRequest py r₂ policies m = .ok q₂)
    (hb : q₁.decision = .block) : q₂.decision = .block := by
  rcases evaluateRequest_decision py h₁ with ⟨ht₁, -⟩ | ⟨t₁, l₁, ht₁, hl₁, hd₁⟩ <;>
    rcases evaluateRequest_decision py h₂ with ⟨ht₂, hd₂⟩ | ⟨t₂, l₂, ht₂, hl₂, hd₂⟩
  · exact hd₂
  · rw [hteam, ht₂] at ht₁
    exact absurd ht₁ (by simp)
  · exact hd₂
  · rw [hteam, ht₂, Option.some_inj] at ht₁
    subst ht₁
    rw [hl₁, Except.ok.injEq] at hl₂
    subst hl₂
    have hr₁ : quotaReasons py r₁ t₂ l₁ ≠ [] := by
      by_contra hr
      rw [hd₁, if_neg (not_not.mpr hr)] at hb
      exact absurd hb (by decide)
    rw [hd₂, if_pos]
    rw [quotaReasons_ne_nil] at hr₁ ⊢
    rcases hr₁ with ⟨hn, hle⟩ | ⟨hn, hlt⟩ | ⟨b, hb, hlt⟩ | ⟨hs, hf⟩
    · exact Or.inl ⟨hn, hle.trans hreq⟩
    · exact Or.inr (Or.inl ⟨hn, hlt.trans_le htok⟩)
    · exact Or.inr (Or.inr (Or.inl ⟨b, hb, hlt.trans_le hcost⟩))
    · exact Or.inr (Or.inr (Or.inr ⟨hsens hs, hf⟩))

end ControlPlane.Quota

/-
# The approval engine (`governance/approval/evaluate.py`)

The engine blocks what no approval can cover and asks for approval where a human
has to look.  It reads the decisions of the cost and the risk stage.
-/
import ControlPlane.Governance.PolicyPack
import ControlPlane.Governance.Risk

namespace ControlPlane.Approval

/-- `FORBIDDEN_MODELS`. -/
def forbiddenModels : List String := ["unknown-frontier-model"]

/-- `SUPPORTED_TEAMS`. -/
def supportedTeams : List String := ["platform", "search", "mlops", "finance"]

/-- The request of the approval engine, built from the row and two stage results. -/
structure ApprovalRequest where
  team : String
  owner : Option String
  environment : String
  «namespace» : String
  action : String
  model : String
  provider : String
  costDecision : StageDecision
  costPerHourUsd : ℚ
  forecastMonthlyCostUsd : ℚ
  risk : RiskLevel
  deriving DecidableEq, Repr

/-- `build_approval_request`. -/
def buildApprovalRequest (row : PipelineRow) (costDecision : StageDecision)
    (riskLevel : RiskLevel) : ApprovalRequest where
  team := row.team
  owner := if row.owner = "" then none else some row.owner
  environment := row.environment
  «namespace» := row.namespace
  action := row.action
  model := row.model
  provider := row.provider
  costDecision := costDecision
  costPerHourUsd := row.costPerHourUsd
  forecastMonthlyCostUsd := row.forecastMonthlyCostUsd
  risk := riskLevel

/-- The registry, or the built-in list for a model it does not know, forbids the model. -/
def modelForbidden (request : ApprovalRequest) (registry : Dict Entry) : Bool :=
  match registry request.model with
  | some entry => entry.truthy "forbidden"
  | none => request.model ∈ forbiddenModels

/-- The registry confines the model to other namespaces. -/
def namespaceForbidden (request : ApprovalRequest) (registry : Dict Entry) : Bool :=
  (registry request.model).elim false
    (fun entry => entry.listExcludes "allowed_namespaces" request.namespace)

/-- The reasons to block. -/
def blockReasons (request : ApprovalRequest) (registry : Dict Entry) : List String :=
  reasonIf (request.owner ∈ [none, some "", some "none"]) "request has no responsible owner"
  ++ reasonIf (request.team ∉ supportedTeams)
    ("team " ++ request.team ++ " is not onboarded for AI governance")
  ++ reasonIf (modelForbidden request registry) ("model " ++ request.model ++ " is forbidden")
  ++ reasonIf (namespaceForbidden request registry)
    ("namespace " ++ request.namespace ++ " is not allowed for model " ++ request.model)
  ++ reasonIf (request.costDecision = .block) "cost governance returned block"

/-- The request faces production. -/
def isProduction (request : ApprovalRequest) : Prop :=
  request.environment = "production" ∨ endsWith request.namespace "-prod"

instance (request : ApprovalRequest) : Decidable (isProduction request) :=
  inferInstanceAs (Decidable (_ ∨ _))

/-- The reasons to ask for approval. -/
def approvalReasons (request : ApprovalRequest) : List String :=
  reasonIf (request.costDecision = .warn) "cost governance returned warn"
  ++ reasonIf (isProduction request) "production environment requires human approval"
  ++ reasonIf (request.provider ∈ PolicyPack.externalProviders)
    "external model provider requires human approval"
  ++ reasonIf (request.action ∈ Risk.deployActions)
    ("action " ++ request.action ++ " changes serving posture")
  ++ reasonIf (request.risk ∈ [.high, .critical]) ("risk level is " ++ request.risk.name)
  ++ reasonIf (3 / 4 ≤ request.costPerHourUsd) "model hourly cost is above approval threshold"
  ++ reasonIf (1500 ≤ request.forecastMonthlyCostUsd)
    "forecasted monthly cost is above approval threshold"

/-- `evaluate_request` of the approval engine. -/
def evaluateRequest (request : ApprovalRequest) (registry : Dict Entry) : StageResult :=
  ruling .approvalRequired (blockReasons request registry) (approvalReasons request)
    "request is low-risk and inside approval limits"

/-! ## The grounds for an approval -/

theorem approvalReasons_ne_nil (request : ApprovalRequest) :
    approvalReasons request ≠ [] ↔
      request.costDecision = .warn ∨ isProduction request
        ∨ request.provider ∈ PolicyPack.externalProviders ∨ request.action ∈ Risk.deployActions
        ∨ request.risk ∈ [RiskLevel.high, .critical] ∨ 3 / 4 ≤ request.costPerHourUsd
        ∨ 1500 ≤ request.forecastMonthlyCostUsd := by
  unfold approvalReasons
  simp only [append_reasonIf_ne_nil, reasonIf_ne_nil, or_assoc]

/-- A critical risk and a cost warning are grounds of their own. -/
theorem approvalReasons_of_critical (row : PipelineRow) (costDecision : StageDecision)
    (level : RiskLevel) (h : level = .critical) :
    approvalReasons (buildApprovalRequest row costDecision level) ≠ [] := by
  rw [approvalReasons_ne_nil]
  right; right; right; right; left
  rw [h]
  exact List.mem_cons_of_mem _ (List.mem_singleton_self _)

theorem approvalReasons_of_warn (row : PipelineRow) (costDecision : StageDecision)
    (level : RiskLevel) (h : costDecision = .warn) :
    approvalReasons (buildApprovalRequest row costDecision level) ≠ [] := by
  rw [approvalReasons_ne_nil]
  exact Or.inl h

/-! ## Larger costs and higher risk ask for more -/

theorem costDecision_cases {d₁ d₂ : StageDecision} (h : d₁ ≤ d₂) (hw : d₁ = .warn)
    (hd : d₂ ≠ .approvalRequired) : d₂ = .block ∨ d₂ = .warn := by
  subst hw
  cases d₂ <;> first | exact absurd h (by decide) | simp_all

/-- **The approval engine is monotone** in the costs, the cost decision and the
risk level. -/
theorem evaluateRequest_mono {r₁ r₂ : ApprovalRequest} {registry : Dict Entry}
    (howner : r₁.owner = r₂.owner) (hteam : r₁.team = r₂.team) (hmodel : r₁.model = r₂.model)
    (hns : r₁.namespace = r₂.namespace) (henv : r₁.environment = r₂.environment)
    (hprov : r₁.provider = r₂.provider) (haction : r₁.action = r₂.action)
    (hcost : r₁.costDecision ≤ r₂.costDecision)
    (hcost₂ : r₂.costDecision ≠ .approvalRequired)
    (hrisk : r₁.risk.index ≤ r₂.risk.index) (hhour : r₁.costPerHourUsd ≤ r₂.costPerHourUsd)
    (hforecast : r₁.forecastMonthlyCostUsd ≤ r₂.forecastMonthlyCostUsd) :
    (evaluateRequest r₁ registry).decision ≤ (evaluateRequest r₂ registry).decision := by
  have hblock : r₁.costDecision = .block → r₂.costDecision = .block := by
    intro h
    rw [h, StageDecision.block_le_iff] at hcost
    exact hcost
  have hlevel : r₁.risk ∈ [RiskLevel.high, .critical] → r₂.risk ∈ [RiskLevel.high, .critical] := by
    revert hrisk
    cases r₁.risk <;> cases r₂.risk <;> decide
  have hprod : isProduction r₁ → isProduction r₂ := by
    unfold isProduction
    rw [henv, hns]
    exact id
  unfold evaluateRequest
  apply ruling_mono
  · unfold blockReasons modelForbidden namespaceForbidden
    rw [howner, hteam, hmodel, hns]
    simp only [append_reasonIf_ne_nil]
    exact Or.imp_right hblock
  · rw [approvalReasons_ne_nil, approvalReasons_ne_nil, hprov, haction]
    unfold blockReasons
    rw [append_reasonIf_ne_nil]
    rintro (h | h | h | h | h | h | h)
    · rcases costDecision_cases hcost h hcost₂ with h | h
      · exact Or.inl (Or.inr h)
      · exact Or.inr (Or.inl h)
    · exact Or.inr (Or.inr (Or.inl (hprod h)))
    · exact Or.inr (Or.inr (Or.inr (Or.inl h)))
    · exact Or.inr (Or.inr (Or.inr (Or.inr (Or.inl h))))
    · exact Or.inr (Or.inr (Or.inr (Or.inr (Or.inr (Or.inl (hlevel h))))))
    · exact Or.inr (Or.inr (Or.inr (Or.inr (Or.inr (Or.inr (Or.inl (h.trans hhour)))))))
    · exact Or.inr (Or.inr (Or.inr (Or.inr (Or.inr (Or.inr (Or.inr (h.trans hforecast)))))))

end ControlPlane.Approval

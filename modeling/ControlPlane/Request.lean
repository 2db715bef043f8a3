/-
# Requests, configurations and stage results

The data that flows through the governance pipeline: the request as the API
receives it, the row the engines read, the parsed policy bundle, the live
telemetry, and the verdicts.  Verdicts are ordered by severity,
`allow < approval_required < block`.
-/
import ControlPlane.Python
import Mathlib.Order.Lattice
import Mathlib.Order.BoundedOrder.Basic

namespace ControlPlane

/-! ## Verdicts -/

/-- The final verdict of the pipeline. -/
inductive Verdict where
  | allow
  | approvalRequired
  | block
  deriving DecidableEq, Repr

namespace Verdict

/-- The text of a verdict. -/
def name : Verdict → String
  | allow => "allow"
  | approvalRequired => "approval_required"
  | block => "block"

/-- The rank of a verdict in the severity order. -/
def severity : Verdict → ℕ
  | allow => 0
  | approvalRequired => 1
  | block => 2

theorem severity_injective : Function.Injective severity := by
  intro a b h
  cases a <;> cases b <;> first | rfl | cases h

instance : LinearOrder Verdict := LinearOrder.lift' severity severity_injective

instance : BoundedOrder Verdict where
  bot := allow
  bot_le := by intro v; cases v <;> decide
  top := block
  le_top := by intro v; cases v <;> decide

@[simp] theorem bot_eq : (⊥ : Verdict) = allow := rfl
@[simp] theorem allow_le (v : Verdict) : allow ≤ v := bot_le
@[simp] theorem le_block (v : Verdict) : v ≤ block := le_top

@[simp] theorem block_le_iff (v : Verdict) : block ≤ v ↔ v = block := by
  cases v <;> decide

@[simp] theorem approvalRequired_le_iff (v : Verdict) :
    approvalRequired ≤ v ↔ v ≠ allow := by
  cases v <;> decide

@[simp] theorem le_allow_iff (v : Verdict) : v ≤ allow ↔ v = allow := by
  cases v <;> decide

/-- Severity is decided by two questions: is it a block, is it more than an allow. -/
theorem le_iff_forall (a b : Verdict) :
    a ≤ b ↔ (a = block → b = block) ∧ (a ≠ allow → b ≠ allow) := by
  cases a <;> cases b <;> decide

/-- The same two questions determine a verdict. -/
theorem eq_iff_forall (a b : Verdict) :
    a = b ↔ (a = block ↔ b = block) ∧ (a ≠ allow ↔ b ≠ allow) := by
  cases a <;> cases b <;> decide

end Verdict

/-- What a single stage decides. -/
inductive StageDecision where
  | allow
  | warn
  | approvalRequired
  | block
  deriving DecidableEq, Repr

namespace StageDecision

/-- The rank of a stage decision in the severity order. -/
def severity : StageDecision → ℕ
  | allow => 0
  | warn => 1
  | approvalRequired => 2
  | block => 3

theorem severity_injective : Function.Injective severity := by
  intro a b h
  cases a <;> cases b <;> first | rfl | cases h

instance : LinearOrder StageDecision := LinearOrder.lift' severity severity_injective

@[simp] theorem allow_le (d : StageDecision) : allow ≤ d := by cases d <;> decide
@[simp] theorem le_block (d : StageDecision) : d ≤ block := by cases d <;> decide

@[simp] theorem block_le_iff (d : StageDecision) : block ≤ d ↔ d = block := by
  cases d <;> decide

end StageDecision

/-- The levels of the risk score. -/
inductive RiskLevel where
  | low
  | medium
  | high
  | critical
  deriving DecidableEq, Repr

namespace RiskLevel

/-- The position of a level in `RISK_ORDER`. -/
def index : RiskLevel → ℕ
  | low => 0
  | medium => 1
  | high => 2
  | critical => 3

/-- The text of a level. -/
def name : RiskLevel → String
  | low => "low"
  | medium => "medium"
  | high => "high"
  | critical => "critical"

/-- The level with a given name: `RISK_ORDER.index` raises on any other string. -/
def ofName? (s : String) : Option RiskLevel :=
  [low, medium, high, critical].find? (fun level => level.name = s)

end RiskLevel

/-! ## Requests and rows -/

/-- The body of `POST /governance/evaluate`. -/
structure GovernanceEvaluateRequest where
  subject : String := ""
  groups : List String := []
  policyPack : String := ""
  team : String := "platform"
  tenantId : String := ""
  owner : String := "alice"
  environment : String := "development"
  «namespace» : String := "ai-dev"
  action : String := "invoke_model"
  model : String := "llama3.1:8b"
  provider : String := "ollama"
  inputTokens : ℤ := 1000
  outputTokens : ℤ := 500
  costPerRequestUsd : ℚ := 1 / 100
  costPerHourUsd : ℚ := 18 / 100
  monthToDateCostUsd : ℚ := 100
  forecastMonthlyCostUsd : ℚ := 400
  sensitiveData : Bool := false
  toolAccess : Bool := false
  writePermission : Bool := false
  requestsLastMinute : ℤ := 0
  tokensToday : ℤ := 0
  modelRevision : String := ""
  modelArtifactDigest : String := ""
  promptText : String := ""
  agent : String := ""
  region : String := ""
  deriving DecidableEq, Repr

/-- `x or y` on strings. -/
def orElse (x y : String) : String := if x = "" then y else x

/-- The row the engines read. -/
structure PipelineRow where
  subject : String
  team : String
  owner : String
  policyPack : String
  environment : String
  «namespace» : String
  action : String
  model : String
  provider : String
  inputTokens : ℤ
  outputTokens : ℤ
  costPerRequestUsd : ℚ
  costPerHourUsd : ℚ
  monthToDateCostUsd : ℚ
  forecastMonthlyCostUsd : ℚ
  sensitiveData : Bool
  toolAccess : Bool
  writePermission : Bool
  requestsLastMinute : ℤ
  tokensToday : ℤ
  modelRevision : String
  modelArtifactDigest : String
  promptText : String
  agent : String
  region : String
  deriving DecidableEq, Repr

/-- `to_pipeline_row`. -/
def toPipelineRow (payload : GovernanceEvaluateRequest) : PipelineRow where
  subject := orElse payload.subject payload.owner
  team := payload.team
  owner := payload.owner
  policyPack := payload.policyPack
  environment := payload.environment
  «namespace» := payload.namespace
  action := payload.action
  model := payload.model
  provider := payload.provider
  inputTokens := payload.inputTokens
  outputTokens := payload.outputTokens
  costPerRequestUsd := payload.costPerRequestUsd
  costPerHourUsd := payload.costPerHourUsd
  monthToDateCostUsd := payload.monthToDateCostUsd
  forecastMonthlyCostUsd := payload.forecastMonthlyCostUsd
  sensitiveData := payload.sensitiveData
  toolAccess := payload.toolAccess
  writePermission := payload.writePermission
  requestsLastMinute := payload.requestsLastMinute
  tokensToday := payload.tokensToday
  modelRevision := payload.modelRevision
  modelArtifactDigest := payload.modelArtifactDigest
  promptText := payload.promptText
  agent := payload.agent
  region := payload.region

/-! ## Configurations -/

/-- The parsed `policy-packs/packs.yaml`. -/
structure PackConfig where
  defaultPack : String := "development"
  environmentMap : Dict String := fun _ => none
  packs : Dict Entry := fun _ => none

/-- The parsed `sovereign/residency.yaml`. -/
structure ResidencyConfig where
  defaultRegion : String := "local"
  regions : Dict Entry := fun _ => none

/-- The parsed `cost/policies.yaml`. -/
structure CostPolicies where
  «global» : Entry := fun _ => none
  teams : Dict Entry := fun _ => none

/-- The parsed `risk/rules.yaml`. -/
structure RiskRules where
  scoreWeights : Entry := fun _ => none
  thresholds : Entry := fun _ => none
  externalProviders : List String := []
  productionNamespaces : List String := []

/-- The parsed configurations of a valid policy bundle. -/
structure PolicyConfig where
  packs : PackConfig := {}
  quotaPolicies : Dict Entry := fun _ => none
  registry : Dict Entry := fun _ => none
  residency : ResidencyConfig := {}
  agents : Dict Entry := fun _ => none
  tools : Dict Entry := fun _ => none
  costPolicies : CostPolicies := {}
  riskRules : RiskRules := {}

/-- A loaded bundle: its identity, and its configurations or the load error. -/
structure PolicyBundle where
  bundleId : String
  contentDigest : String
  gitRevision : String := "unknown"
  loadedAt : String := ""
  config : Except String PolicyConfig

/-- The policy for an unreadable quota state (`QUOTA_ON_UNAVAILABLE`). -/
inductive QuotaOnUnavailable where
  | allow
  | block
  | approvalRequired
  deriving DecidableEq, Repr

/-- The environment of the evaluating process. -/
structure EngineEnv where
  quotaOnUnavailable : QuotaOnUnavailable := .approvalRequired
  /-- `MODEL_REGISTRY_VERIFY` -/
  registryVerify : Bool := false
  /-- `MODEL_REGISTRY_SIGNING_KEY` -/
  signingKey : String := "ai-platform-registry-demo"
  /-- the hexadecimal HMAC-SHA256 of a key and a message -/
  hmacSha256 : String → String → String

/-- Where the live counters of a request came from. -/
inductive QuotaSource where
  | request
  | redis
  | unavailable
  deriving DecidableEq, Repr

/-- The live telemetry attached to an evaluation. -/
structure GovernanceTelemetryStage where
  quotaSource : QuotaSource := .request
  requestsLastMinute : ℤ := 0
  tokensToday : ℤ := 0
  prometheusEnabled : Bool := false
  gatewayP95LatencyMs : Option ℚ := none
  gatewayErrorRate : Option ℚ := none
  governanceBlockRate : Option ℚ := none
  tenantRequestRate : Option ℚ := none
  prometheusErrors : List String := []
  blockReasons : List String := []
  deriving DecidableEq, Repr

/-! ## Stage results -/

/-- The decision of a stage with its reasons. -/
structure StageResult where
  decision : StageDecision
  reasons : List String
  deriving DecidableEq, Repr

/-- The ending shared by the cost and the approval engine: blocking reasons, then
the reasons for a milder decision, then the text of an allow. -/
def ruling (milder : StageDecision) (blockReasons milderReasons : List String)
    (allowText : String) : StageResult :=
  if blockReasons ≠ [] then { decision := .block, reasons := blockReasons }
  else if milderReasons ≠ [] then { decision := milder, reasons := milderReasons }
  else { decision := .allow, reasons := [allowText] }

section Ruling

variable {milder : StageDecision} {bs ms : List String} {text : String}

theorem ruling_block_iff (h : milder ≠ .block) :
    (ruling milder bs ms text).decision = .block ↔ bs ≠ [] := by
  unfold ruling
  split_ifs <;> simp_all

theorem ruling_milder_iff (h : milder ≠ .block) (h' : milder ≠ .allow) :
    (ruling milder bs ms text).decision = milder ↔ bs = [] ∧ ms ≠ [] := by
  unfold ruling
  split_ifs <;> simp_all [eq_comm]

/-- A ruling with more reasons is no milder; a milder reason may have become a
blocking one. -/
theorem ruling_mono {bs' ms' : List String} {text' : String} (hb : bs ≠ [] → bs' ≠ [])
    (hm : ms ≠ [] → bs' ≠ [] ∨ ms' ≠ []) :
    (ruling milder bs ms text).decision ≤ (ruling milder bs' ms' text').decision := by
  unfold ruling
  by_cases hb' : bs' ≠ []
  · rw [if_pos hb']
    exact StageDecision.le_block _
  · have hbs : ¬ bs ≠ [] := fun h => hb' (hb h)
    rw [if_neg hb', if_neg hbs]
    by_cases hms : ms ≠ []
    · rw [if_pos hms, if_pos ((hm hms).resolve_left hb')]
    · rw [if_neg hms]
      exact StageDecision.allow_le _

end Ruling

end ControlPlane

/-
# The batch pipeline (`governance/pipeline/run_pipeline.py`)

The offline runner sends the rows of a CSV file through five engines of the governance
pipeline, with a row construction and a fold of its own.  Every rule of its fold is a rule of
the online fold, so the stages that only the online pipeline has can make a verdict more
severe and never relax one.
-/
import ControlPlane.Governance.Pipeline

open Precedence

namespace ControlPlane.Batch

/-! ## Rows -/

/-- A row of the request file.  The last three are columns that a file may leave out, as the
texts it has for them; the multiplier of a policy pack is not a column of a request. -/
structure BatchRequest where
  team : String
  owner : String
  environment : String
  «namespace» : String
  action : String
  model : String
  provider : String
  inputTokens : ℤ
  outputTokens : ℤ
  costPerRequestUsd : ℚ
  costPerHourUsd : ℚ
  monthToDateCostUsd : ℚ
  forecastMonthlyCostUsd : ℚ
  sensitiveData : Bool
  toolAccess : Bool
  writePermission : Bool
  requestsLastMinute : Option String := none
  tokensToday : Option String := none
  modelArtifactDigest : Option String := none

namespace BatchRequest

/-- The row with its counters, as the engines read it. -/
def row (request : BatchRequest) (requestsLastMinute tokensToday : ℤ) : PipelineRow where
  subject := ""
  team := request.team
  owner := request.owner
  policyPack := ""
  environment := request.environment
  «namespace» := request.namespace
  action := request.action
  model := request.model
  provider := request.provider
  inputTokens := request.inputTokens
  outputTokens := request.outputTokens
  costPerRequestUsd := request.costPerRequestUsd
  costPerHourUsd := request.costPerHourUsd
  monthToDateCostUsd := request.monthToDateCostUsd
  forecastMonthlyCostUsd := request.forecastMonthlyCostUsd
  sensitiveData := request.sensitiveData
  toolAccess := request.toolAccess
  writePermission := request.writePermission
  requestsLastMinute := requestsLastMinute
  tokensToday := tokensToday
  modelRevision := ""
  modelArtifactDigest := request.modelArtifactDigest.getD ""
  promptText := ""
  agent := ""
  region := ""

end BatchRequest

variable (py : PyRuntime) (env : EngineEnv)

/-- `int(request.get(column, 0))`. -/
def counter (column : Option String) : Except PyError ℤ :=
  match column with
  | some text => py.int (.str text)
  | none => .ok 0

/-- The quota engine on a row; it reads the counters of an onboarded team only. -/
def quotaStage (request : BatchRequest) (policies : Dict Entry) : Except PyError StageResult :=
  match policies request.team with
  | none => Quota.evaluateRequest py (request.row 0 0) policies 1
  | some _ => do
    let requestsLastMinute ← counter py request.requestsLastMinute
    let tokensToday ← counter py request.tokensToday
    Quota.evaluateRequest py (request.row requestsLastMinute tokensToday) policies 1

/-! ## The fold -/

/-- The results of the five stages. -/
structure BatchResults where
  quota : StageResult
  registry : Registry.RegistryResult
  cost : StageResult
  risk : Risk.RiskResult
  approval : StageResult

/-- `final_verdict` of the batch pipeline. -/
def finalVerdict (s : BatchResults) : Verdict × List String :=
  if s.quota.decision = .block then (.block, s.quota.reasons)
  else if s.registry.forbidden then (.block, s.registry.reasons)
  else if s.cost.decision = .block then (.block, ["cost governance blocked the request"])
  else if s.approval.decision = .block then (.block, ["approval workflow blocked the request"])
  else if s.risk.level = .critical then
    (.approvalRequired, ["critical risk score requires human approval"])
  else if s.approval.decision = .approvalRequired then
    (.approvalRequired, ["approval workflow requires human review"])
  else if s.cost.decision = .warn then
    (.approvalRequired, ["cost governance warning requires review"])
  else (.allow, ["all governance stages allow the request"])

/-- The stages of one row. -/
def evaluateStages (config : PolicyConfig) (request : BatchRequest) :
    Except PyError BatchResults := do
  let quota ← quotaStage py request config.quotaPolicies
  let registry ← Registry.evaluateModelPolicy py env (request.row 0 0) config.registry
  let cost ← Cost.evaluateRow py (request.row 0 0) config.costPolicies
  let risk ← Risk.evaluateRequest py (request.row 0 0) config.riskRules config.registry
  let approval := Approval.evaluateRequest
    (Approval.buildApprovalRequest (request.row 0 0) cost.decision risk.level) config.registry
  return { quota := quota, registry := registry, cost := cost, risk := risk, approval := approval }

/-- One round of the loop of `evaluate_pipeline`. -/
def evaluateRequest (config : PolicyConfig) (request : BatchRequest) :
    Except PyError (Verdict × List String) := do
  let s ← evaluateStages py env config request
  return finalVerdict s

/-- The rules of the fold, in its order. -/
def BatchResults.rules (s : BatchResults) : List (Rule Verdict (List String)) :=
  [⟨s.quota.decision = .block, .block, s.quota.reasons⟩,
    ⟨s.registry.forbidden, .block, s.registry.reasons⟩,
    ⟨s.cost.decision = .block, .block, ["cost governance blocked the request"]⟩,
    ⟨s.approval.decision = .block, .block, ["approval workflow blocked the request"]⟩,
    ⟨s.risk.level = .critical, .approvalRequired,
      ["critical risk score requires human approval"]⟩,
    ⟨s.approval.decision = .approvalRequired, .approvalRequired,
      ["approval workflow requires human review"]⟩,
    ⟨s.cost.decision = .warn, .approvalRequired, ["cost governance warning requires review"]⟩]

theorem finalVerdict_fst (s : BatchResults) : (finalVerdict s).1 = joined s.rules := by
  have hfirst : finalVerdict s
      = firstMatch s.rules (⊥, ["all governance stages allow the request"]) := by
    simp only [finalVerdict, BatchResults.rules, firstMatch, decide_eq_true_eq, Verdict.bot_eq]
  have hsorted : s.rules.Pairwise (fun r r' => r'.verdict ≤ r.verdict) := by
    simp [BatchResults.rules]
  rw [hfirst]
  exact firstMatch_fst s.rules _ hsorted

/-- The five results of an online evaluation that the batch fold knows. -/
def ofOnline (s : StageResults) : BatchResults where
  quota := s.quota
  registry := s.registry
  cost := s.cost
  risk := s.risk
  approval := s.approval

/-- **The rules of the batch fold are among those of the online fold**, in the same order. -/
theorem rules_sublist (s : StageResults) : List.Sublist (ofOnline s).rules s.rules := by
  -- only the online fold has the pack, the prompt, the agent and the residency stage, and a
  -- quota stage that may ask
  refine .cons _ (.cons _ (.cons _ (.cons_cons _ (.cons_cons _ (.cons _ ?_)))))
  refine .cons_cons _ (.cons_cons _ (.cons _ (.cons _ ?_)))
  exact .cons_cons _ (.cons_cons _ (.cons_cons _ .slnil))

/-- The online fold is at least as strict on the same results. -/
theorem finalVerdict_ofOnline_le (s : StageResults) :
    (finalVerdict (ofOnline s)).1 ≤ (ControlPlane.finalVerdict s).1 := by
  rw [finalVerdict_fst, StageResults.finalVerdict_fst]
  exact joined_mono (rules_sublist s).subset

/-! ## Payloads -/

/-- The payload has the fields of the row. -/
structure Carries (payload : GovernanceEvaluateRequest) (request : BatchRequest) : Prop where
  team : payload.team = request.team
  owner : payload.owner = request.owner
  environment : payload.environment = request.environment
  «namespace» : payload.namespace = request.namespace
  action : payload.action = request.action
  model : payload.model = request.model
  provider : payload.provider = request.provider
  inputTokens : payload.inputTokens = request.inputTokens
  outputTokens : payload.outputTokens = request.outputTokens
  costPerRequestUsd : payload.costPerRequestUsd = request.costPerRequestUsd
  costPerHourUsd : payload.costPerHourUsd = request.costPerHourUsd
  monthToDateCostUsd : payload.monthToDateCostUsd = request.monthToDateCostUsd
  forecastMonthlyCostUsd : payload.forecastMonthlyCostUsd = request.forecastMonthlyCostUsd
  sensitiveData : payload.sensitiveData = request.sensitiveData
  toolAccess : payload.toolAccess = request.toolAccess
  writePermission : payload.writePermission = request.writePermission
  requestsLastMinute : counter py request.requestsLastMinute = .ok payload.requestsLastMinute
  tokensToday : counter py request.tokensToday = .ok payload.tokensToday
  modelArtifactDigest : payload.modelArtifactDigest = request.modelArtifactDigest.getD ""

/-- The row of the online pipeline is the batch row with the fields that only it has. -/
theorem Carries.toPipelineRow_eq {payload : GovernanceEvaluateRequest} {request : BatchRequest}
    (h : Carries py payload request) :
    toPipelineRow payload = { request.row payload.requestsLastMinute payload.tokensToday with
      subject := orElse payload.subject payload.owner, policyPack := payload.policyPack
      modelRevision := payload.modelRevision, promptText := payload.promptText
      agent := payload.agent, region := payload.region } := by
  obtain ⟨h₁, h₂, h₃, h₄, h₅, h₆, h₇, h₈, h₉, h₁₀, h₁₁, h₁₂, h₁₃, h₁₄, h₁₅, h₁₆, -, -, h₁₇⟩ := h
  unfold toPipelineRow BatchRequest.row
  rw [h₁, h₂, h₃, h₄, h₅, h₆, h₇, h₈, h₉, h₁₀, h₁₁, h₁₂, h₁₃, h₁₄, h₁₅, h₁₆, h₁₇]

/-- The quota engine decides the same for the row as for the payload. -/
theorem Carries.quotaStage_eq {payload : GovernanceEvaluateRequest} {request : BatchRequest}
    (h : Carries py payload request) (policies : Dict Entry) :
    quotaStage py request policies
      = Quota.evaluateRequest py (toPipelineRow payload) policies 1 := by
  rw [h.toPipelineRow_eq]
  unfold quotaStage
  cases hteam : policies request.team with
  | none =>
    unfold Quota.evaluateRequest
    have hrow : (request.row 0 0).team = request.team := rfl
    have hrow' : ({ request.row payload.requestsLastMinute payload.tokensToday with
        subject := orElse payload.subject payload.owner, policyPack := payload.policyPack
        modelRevision := payload.modelRevision, promptText := payload.promptText
        agent := payload.agent, region := payload.region } : PipelineRow).team
          = request.team := rfl
    rw [hrow, hrow', hteam]
  | some tenant =>
    dsimp only
    rw [h.requestsLastMinute, h.tokensToday]
    rfl

/-- A payload that its pack does not block has the same stages in both pipelines. -/
theorem Carries.evaluateStages_eq {payload : GovernanceEvaluateRequest} {request : BatchRequest}
    (h : Carries py payload request) {config : PolicyConfig} {s : StageResults}
    (L : LaterStagesOk py env config none (toPipelineRow payload) s)
    (hmultiplier : s.packPre.quotaMultiplier = 1) :
    evaluateStages py env config request = .ok (ofOnline s) := by
  obtain ⟨own, hown, hquota⟩ := L.quota
  have hsame : s.quota = own := hquota
  rw [hmultiplier] at hown
  have hregistry := L.registry
  have hcost := L.cost
  have hrisk := L.risk
  have happroval := L.approval
  rw [h.toPipelineRow_eq] at hregistry hcost hrisk happroval
  unfold evaluateStages
  rw [h.quotaStage_eq, hown, bind_eq_ok]
  refine ⟨own, rfl, ?_⟩
  rw [bind_eq_ok]
  refine ⟨s.registry, hregistry, ?_⟩
  rw [bind_eq_ok]
  refine ⟨s.cost, hcost, ?_⟩
  rw [bind_eq_ok]
  refine ⟨s.risk, hrisk, ?_⟩
  rw [pure_eq_ok]
  unfold ofOnline
  rw [hsame, happroval]
  rfl

/-! ## The comparison -/

/-- **The online pipeline is at least as strict as the batch pipeline.**  When the pack of a
payload leaves the quotas as they are and there is no telemetry, the online verdict is at least
as severe as the verdict of the batch pipeline on the row that the payload carries; it is a
block where the batch pipeline raises. -/
theorem evaluateRequest_le_online (bundle : PolicyBundle) (config : PolicyConfig)
    (hconfig : bundle.config = .ok config)
    (capabilities : String → String → Except PyError (String × String))
    (payload : GovernanceEvaluateRequest) (request : BatchRequest)
    (hcarries : Carries py payload request)
    (hmultiplier : PolicyPack.packMultiplier py config.packs
      (PolicyPack.resolvePackName py (toPipelineRow payload) config.packs) = .ok 1)
    (res : GovernanceEvaluateResponse)
    (hres : evaluateGovernanceRequest py env bundle none capabilities payload = .ok res) :
    match evaluateRequest py env config request with
    | .ok batch => batch.1 ≤ res.finalVerdict
    | .error _ => res.finalVerdict = .block := by
  obtain ⟨config', s, hconfig', hstages, hverdict⟩ := evaluateGovernanceRequest_ok py env hres
  rw [hconfig, Except.ok.injEq] at hconfig'
  subst hconfig'
  have hjudge : res.finalVerdict = (ControlPlane.finalVerdict s).1 := by
    rw [hverdict, judge_fst]
    exact if_neg (fun hblocks => hblocks rfl)
  rw [hjudge]
  obtain ⟨hpre, hcase⟩ := evaluateStages_ok py env hstages
  rcases hcase with ⟨hblock, -⟩ | ⟨-, L⟩
  · -- the pack blocks, and no verdict is more severe
    have hfinal : (ControlPlane.finalVerdict s).1 = .block :=
      s.finalVerdict_block_iff.mpr (Or.inl hblock)
    rw [hfinal]
    cases evaluateRequest py env config request with
    | ok batch => exact Verdict.le_block batch.1
    | error e => rfl
  · have hone : s.packPre.quotaMultiplier = 1 := by
      have hm := PolicyPack.evaluatePack_multiplier py hpre
      rw [hmultiplier, Except.ok.injEq] at hm
      exact hm.symm
    have hbatch : evaluateRequest py env config request = .ok (finalVerdict (ofOnline s)) := by
      unfold evaluateRequest
      rw [hcarries.evaluateStages_eq py env L hone]
      rfl
    rw [hbatch]
    exact finalVerdict_ofOnline_le s

/-- A production request, as a row of a file and as a payload. -/
def productionRow : BatchRequest where
  team := "platform"
  owner := "platform-oncall"
  environment := "production"
  «namespace» := "ai-prod"
  action := "run_model"
  model := "llama3.1:8b"
  provider := "ollama"
  inputTokens := 1200
  outputTokens := 600
  costPerRequestUsd := 0
  costPerHourUsd := 12 / 100
  monthToDateCostUsd := 210
  forecastMonthlyCostUsd := 300
  sensitiveData := false
  toolAccess := false
  writePermission := false

/-- A request in production that uses no live quota. -/
def productionPayload : GovernanceEvaluateRequest where
  team := "platform"
  owner := "platform-oncall"
  environment := "production"
  «namespace» := "ai-prod"
  action := "run_model"
  inputTokens := 1200
  outputTokens := 600
  costPerRequestUsd := 0
  costPerHourUsd := 12 / 100
  monthToDateCostUsd := 210
  forecastMonthlyCostUsd := 300

theorem carries_production : Carries .ascii productionPayload productionRow := by
  constructor <;> decide +kernel

/-- The production request passes both pipelines with a verdict. -/
theorem evaluateRequest_le_online_production :
    ∃ res, evaluateGovernanceRequest .ascii (plainEnv .approvalRequired) shippedBundle none
        noCapabilities productionPayload = .ok res ∧
      match evaluateRequest .ascii (plainEnv .approvalRequired) shippedConfig productionRow with
      | .ok batch => batch.1 ≤ res.finalVerdict
      | .error _ => res.finalVerdict = .block := by
  obtain ⟨res, hres⟩ := exists_ok_of_isOk (evaluateGovernanceRequest .ascii
    (plainEnv .approvalRequired) shippedBundle none noCapabilities productionPayload)
    (by decide +kernel)
  exact ⟨res, hres, evaluateRequest_le_online .ascii (plainEnv .approvalRequired) shippedBundle
    shippedConfig rfl noCapabilities productionPayload productionRow carries_production
    (by decide +kernel) res hres⟩

example : (evaluateRequest .ascii (plainEnv .approvalRequired) shippedConfig
    productionRow).toOption.map Prod.fst = some .approvalRequired := by decide +kernel

end ControlPlane.Batch

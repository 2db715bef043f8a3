/-
# Signals supplied by the client

Two requests that differ only in the counters, the costs and the flags that the server
derives itself.  Enrichment overwrites all of them, except for the counters when the quota
backend is unavailable; these do reach the quota engine, and there the override of the
unavailable backend sets its decision aside.
-/
import ControlPlane.Enrichment
import ControlPlane.Governance.Pipeline

namespace ControlPlane.ClientSignals

/-! ## Two requests -/

/-- The requests differ at most in the signals that the server derives. -/
def SameButSignals (p₁ p₂ : GovernanceEvaluateRequest) : Prop :=
  p₂ = { p₁ with
    requestsLastMinute := p₂.requestsLastMinute, tokensToday := p₂.tokensToday
    costPerRequestUsd := p₂.costPerRequestUsd, costPerHourUsd := p₂.costPerHourUsd
    monthToDateCostUsd := p₂.monthToDateCostUsd
    forecastMonthlyCostUsd := p₂.forecastMonthlyCostUsd
    sensitiveData := p₂.sensitiveData, writePermission := p₂.writePermission }

/-- A row with other counters. -/
def counted (row : PipelineRow) (requestsLastMinute tokensToday : ℤ) : PipelineRow :=
  { row with requestsLastMinute := requestsLastMinute, tokensToday := tokensToday }

/-- The verdict of an enriched request. -/
def evaluatedVerdict (py : PyRuntime) (signals : SignalsEnv) (env : EngineEnv)
    (bundle : PolicyBundle) (capabilities : String → String → Except PyError (String × String))
    (payload : GovernanceEvaluateRequest) (headers : Headers) : Except PyError Verdict := do
  let enriched ← enrichGovernanceRequest py signals payload headers
  let telemetry := buildTelemetryStage py signals enriched.1 enriched.2.1 enriched.2.2
  let result ← evaluateGovernanceRequest py env bundle (some telemetry) capabilities enriched.1
  return result.finalVerdict

/-! ## The counters of an unavailable backend -/

section Counters

variable {py : PyRuntime} {env : EngineEnv} {config : PolicyConfig}
  {t₁ t₂ : Option GovernanceTelemetryStage}

variable (py) in
/-- The counters decide whether the quota engine blocks, not whether it raises. -/
theorem quota_raises (row : PipelineRow) (policies : Dict Entry) (m : ℚ)
    (requestsLastMinute tokensToday : ℤ) :
    (∃ e, Quota.evaluateRequest py row policies m = .error e ∧
        Quota.evaluateRequest py (counted row requestsLastMinute tokensToday) policies m
          = .error e) ∨
      ∃ q₁ q₂, Quota.evaluateRequest py row policies m = .ok q₁ ∧
        Quota.evaluateRequest py (counted row requestsLastMinute tokensToday) policies m
          = .ok q₂ := by
  have hteam : (counted row requestsLastMinute tokensToday).team = row.team := rfl
  unfold Quota.evaluateRequest
  rw [hteam]
  cases policies row.team with
  | none => exact Or.inr ⟨_, _, rfl, rfl⟩
  | some tenant =>
    dsimp only
    cases Quota.quotaLimits py tenant m with
    | error e => exact Or.inl ⟨e, rfl, rfl⟩
    | ok limits =>
      have hok : ∀ r : PipelineRow, ∃ q, (do
          let reasons := Quota.quotaReasons py r tenant limits
          if reasons ≠ [] then return { decision := .block, reasons := reasons }
          return { decision := .allow, reasons := ["tenant quota checks passed"] } :
          Except PyError StageResult) = .ok q := by
        intro r
        dsimp only
        split
        · exact ⟨_, rfl⟩
        · exact ⟨_, rfl⟩
      obtain ⟨q₁, h₁⟩ := hok row
      obtain ⟨q₂, h₂⟩ := hok (counted row requestsLastMinute tokensToday)
      exact Or.inr ⟨q₁, q₂, h₁, h₂⟩

/-- The verdict sees the decision of the quota stage, not its reasons. -/
theorem finalVerdict_quota {s₁ s₂ : StageResults} (hsame : s₂ = { s₁ with quota := s₂.quota })
    (h : s₁.quota.decision = s₂.quota.decision) :
    (finalVerdict s₁).1 = (finalVerdict s₂).1 := by
  rw [hsame, StageResults.finalVerdict_fst, StageResults.finalVerdict_fst]
  unfold StageResults.rules Precedence.joined
  dsimp only
  rw [h]
  rfl

theorem overrideQuota_decision (policy : QuotaOnUnavailable) (q₁ q₂ : StageResult) :
    (overrideQuota policy q₁).decision = (overrideQuota policy q₂).decision := by
  cases policy <;> rfl

/-- Two evaluations whose telemetry blocks alike judge results with one fold alike. -/
theorem judge_eq (hblocks : TelemetryBlocks t₁ ↔ TelemetryBlocks t₂) {s₁ s₂ : StageResults}
    (h : (finalVerdict s₁).1 = (finalVerdict s₂).1) : (judge t₁ s₁).1 = (judge t₂ s₂).1 := by
  rw [judge_fst, judge_fst, h]
  exact if_congr hblocks rfl rfl

theorem laterStages_counted (h₁ : quotaUnavailable t₁ = true) (h₂ : quotaUnavailable t₂ = true)
    (hblocks : TelemetryBlocks t₁ ↔ TelemetryBlocks t₂) (row : PipelineRow)
    (packPre : PolicyPack.PackResult) (requestsLastMinute tokensToday : ℤ) :
    (laterStages py env config t₁ row packPre).map (fun s => (judge t₁ s).1)
      = (laterStages py env config t₂ (counted row requestsLastMinute tokensToday) packPre).map
        (fun s => (judge t₂ s).1) := by
  -- the engines that do not read the counters do the same for both rows
  have hagent : Agents.evaluateAgentPolicy py (counted row requestsLastMinute tokensToday) ""
      config.agents config.tools
        = Agents.evaluateAgentPolicy py row "" config.agents config.tools := rfl
  have hregistry : Registry.evaluateModelPolicy py env
      (counted row requestsLastMinute tokensToday) config.registry
        = Registry.evaluateModelPolicy py env row config.registry := rfl
  have hcost : Cost.evaluateRow py (counted row requestsLastMinute tokensToday)
      config.costPolicies = Cost.evaluateRow py row config.costPolicies := rfl
  have hrisk : Risk.evaluateRequest py (counted row requestsLastMinute tokensToday)
      config.riskRules config.registry
        = Risk.evaluateRequest py row config.riskRules config.registry := rfl
  have hpack : ∀ level, PolicyPack.evaluatePack py (counted row requestsLastMinute tokensToday)
      config.packs (registryModels config) (some level)
        = PolicyPack.evaluatePack py row config.packs (registryModels config) (some level) :=
    fun _ => rfl
  unfold laterStages
  rw [hagent, hregistry, hcost, hrisk]
  cases Agents.evaluateAgentPolicy py row "" config.agents config.tools with
  | error e => rfl
  | ok agent =>
  rcases quota_raises py row config.quotaPolicies packPre.quotaMultiplier
    requestsLastMinute tokensToday with ⟨e, hq₁, hq₂⟩ | ⟨q₁, q₂, hq₁, hq₂⟩
  · rw [hq₁, hq₂]
    rfl
  rw [hq₁, hq₂]
  cases Registry.evaluateModelPolicy py env row config.registry with
  | error e => rfl
  | ok registry =>
  cases Cost.evaluateRow py row config.costPolicies with
  | error e => rfl
  | ok cost =>
  cases Risk.evaluateRequest py row config.riskRules config.registry with
  | error e => rfl
  | ok risk =>
  simp only [bind, Except.bind, hpack, h₁, h₂, if_true]
  cases PolicyPack.evaluatePack py row config.packs (registryModels config)
    (some risk.level) with
  | error e => rfl
  | ok packPost =>
    refine congrArg Except.ok (judge_eq hblocks ?_)
    exact finalVerdict_quota rfl (overrideQuota_decision _ _ _)

/-- **The counters of an unavailable backend do not reach the verdict.** -/
theorem judge_counted (h₁ : quotaUnavailable t₁ = true) (h₂ : quotaUnavailable t₂ = true)
    (hblocks : TelemetryBlocks t₁ ↔ TelemetryBlocks t₂) (row : PipelineRow)
    (requestsLastMinute tokensToday : ℤ) :
    (evaluateStages py env config t₁ row).map (fun s => (judge t₁ s).1)
      = (evaluateStages py env config t₂ (counted row requestsLastMinute tokensToday)).map
        (fun s => (judge t₂ s).1) := by
  have hpack : PolicyPack.evaluatePack py (counted row requestsLastMinute tokensToday)
      config.packs (registryModels config) none
        = PolicyPack.evaluatePack py row config.packs (registryModels config) none := rfl
  unfold evaluateStages
  rw [hpack]
  cases PolicyPack.evaluatePack py row config.packs (registryModels config) none with
  | error e => rfl
  | ok packPre =>
    show Except.map _ (if packPre.decision = .block then _ else _)
      = Except.map _ (if packPre.decision = .block then _ else _)
    by_cases hblock : packPre.decision = .block
    · rw [if_pos hblock, if_pos hblock]
      exact congrArg Except.ok (judge_eq hblocks rfl)
    · rw [if_neg hblock, if_neg hblock]
      exact laterStages_counted h₁ h₂ hblocks row packPre requestsLastMinute tokensToday

end Counters

/-! ## The two runs -/

section Enrichment

variable {py : PyRuntime} {signals : SignalsEnv} {headers : Headers}

/-- What enrichment makes of a request whose signals are the server's. -/
theorem enrich_eq (h : allowClientGovernanceSignals py signals headers = false)
    (payload : GovernanceEvaluateRequest) :
    enrichGovernanceRequest py signals payload headers = (do
      let cost ← deriveRequestCost py signals payload.model payload.inputTokens
        payload.outputTokens (snapshotCost (signals.quotaState payload.team))
      return (overlayDerived (overlayCounters (signals.quotaState payload.team) payload) cost
          (deriveSensitivity py signals payload.team payload.namespace headers),
        effectiveSnapshot false payload.team (signals.quotaState payload.team),
        signals.prometheus payload.team payload.model)) := by
  unfold enrichGovernanceRequest
  rw [h]
  rfl

/-- Redis has the counters of a team. -/
def CountersKnown (snapshot : Option QuotaStateSnapshot) : Prop :=
  ∃ s, snapshot = some s ∧ s.unavailable = false

/-- Behind the derived signals two such requests differ in the counters only. -/
theorem overlayDerived_same {p₁ p₂ : GovernanceEvaluateRequest} (h : SameButSignals p₁ p₂)
    (cost : DerivedCost) (sensitivity : Bool × Bool) :
    overlayDerived p₂ cost sensitivity
      = { overlayDerived p₁ cost sensitivity with
          requestsLastMinute := p₂.requestsLastMinute, tokensToday := p₂.tokensToday } := by
  rw [h]
  rfl

/-- Counters of the server's own replace whatever the request says. -/
theorem overlayCounters_known {p₁ p₂ : GovernanceEvaluateRequest} (h : SameButSignals p₁ p₂)
    {snapshot : Option QuotaStateSnapshot} (hknown : CountersKnown snapshot) (cost : DerivedCost)
    (sensitivity : Bool × Bool) :
    overlayDerived (overlayCounters snapshot p₂) cost sensitivity
      = overlayDerived (overlayCounters snapshot p₁) cost sensitivity := by
  obtain ⟨s, rfl, hs⟩ := hknown
  unfold overlayCounters
  simp only [hs]
  rw [h]
  rfl

variable (py signals) in
/-- Without the server's counters those of the request stay, and the telemetry says that the
quota state is unavailable. -/
theorem not_countersKnown {snapshot : Option QuotaStateSnapshot} (h : ¬ CountersKnown snapshot)
    (payload : GovernanceEvaluateRequest) (team : String) :
    overlayCounters snapshot payload = payload ∧
      ∀ q p, quotaUnavailable (some (buildTelemetryStage py signals p
        (effectiveSnapshot false team snapshot) q)) = true := by
  cases snapshot with
  | none => exact ⟨rfl, fun _ _ => rfl⟩
  | some s =>
    have hs : s.unavailable = true := by
      by_contra hu
      exact h ⟨s, rfl, Bool.eq_false_iff.mpr hu⟩
    refine ⟨?_, fun q p => ?_⟩
    · unfold overlayCounters
      exact if_pos hs
    · unfold effectiveSnapshot buildTelemetryStage quotaUnavailable
      simp [hs]

end Enrichment

/-- The verdict of a request, told by the stages alone. -/
theorem finalVerdict_evaluate (py : PyRuntime) (env : EngineEnv) (bundle : PolicyBundle)
    (telemetry : Option GovernanceTelemetryStage)
    (capabilities : String → String → Except PyError (String × String))
    (payload : GovernanceEvaluateRequest) :
    (evaluateGovernanceRequest py env bundle telemetry capabilities payload).map
        GovernanceEvaluateResponse.finalVerdict = (do
      let verdict ← (runBundle py env bundle telemetry payload).map (fun s => (judge telemetry s).1)
      let _ ← capabilities payload.agent (orElse payload.tenantId payload.team)
      return verdict) := by
  unfold evaluateGovernanceRequest
  cases runBundle py env bundle telemetry payload with
  | error e => rfl
  | ok s =>
    cases hc : capabilities payload.agent (orElse payload.tenantId payload.team) with
    | error e =>
      simp only [bind, Except.bind, Except.map]
    | ok digests =>
      simp only [bind, Except.bind, Except.map]
      rfl

/-- Two requests that reach the pipeline with one quota state get one verdict from it, whatever
their counters are, when the quota state is unavailable. -/
theorem evaluate_counted (py : PyRuntime) (env : EngineEnv) (bundle : PolicyBundle)
    {t₁ t₂ : Option GovernanceTelemetryStage}
    (capabilities : String → String → Except PyError (String × String))
    (payload : GovernanceEvaluateRequest) (requestsLastMinute tokensToday : ℤ)
    (h₁ : quotaUnavailable t₁ = true) (h₂ : quotaUnavailable t₂ = true)
    (hblocks : TelemetryBlocks t₁ ↔ TelemetryBlocks t₂) :
    (evaluateGovernanceRequest py env bundle t₂ capabilities { payload with
        requestsLastMinute := requestsLastMinute, tokensToday := tokensToday }).map
        GovernanceEvaluateResponse.finalVerdict
      = (evaluateGovernanceRequest py env bundle t₁ capabilities payload).map
        GovernanceEvaluateResponse.finalVerdict := by
  have hstages : (runBundle py env bundle t₂ { payload with
        requestsLastMinute := requestsLastMinute, tokensToday := tokensToday }).map
        (fun s => (judge t₂ s).1)
      = (runBundle py env bundle t₁ payload).map (fun s => (judge t₁ s).1) := by
    unfold runBundle
    cases bundle.config with
    | error e => rfl
    | ok config =>
      exact (judge_counted h₁ h₂ hblocks (toPipelineRow payload) requestsLastMinute
        tokensToday).symm
  rw [finalVerdict_evaluate, finalVerdict_evaluate, hstages]

/-- **Client-supplied signals do not influence the verdict.**  Where the caller may not supply
signals, two requests that differ only in the counters, costs and flags that the server derives
get one verdict, for every bundle, every policy for an unavailable quota state and every state
of the quota backend. -/
theorem evaluatedVerdict_eq (py : PyRuntime) (signals : SignalsEnv) (env : EngineEnv)
    (bundle : PolicyBundle) (capabilities : String → String → Except PyError (String × String))
    (headers : Headers) (p₁ p₂ : GovernanceEvaluateRequest)
    (hheaders : allowClientGovernanceSignals py signals headers = false)
    (hsame : SameButSignals p₁ p₂) :
    evaluatedVerdict py signals env bundle capabilities p₂ headers
      = evaluatedVerdict py signals env bundle capabilities p₁ headers := by
  have hmodel : p₂.model = p₁.model := by rw [hsame]
  have hinput : p₂.inputTokens = p₁.inputTokens := by rw [hsame]
  have houtput : p₂.outputTokens = p₁.outputTokens := by rw [hsame]
  have hteam : p₂.team = p₁.team := by rw [hsame]
  have hnamespace : p₂.namespace = p₁.namespace := by rw [hsame]
  have hverdict : ∀ p, evaluatedVerdict py signals env bundle capabilities p headers = (do
      let enriched ← enrichGovernanceRequest py signals p headers
      (evaluateGovernanceRequest py env bundle
        (some (buildTelemetryStage py signals enriched.1 enriched.2.1 enriched.2.2)) capabilities
        enriched.1).map GovernanceEvaluateResponse.finalVerdict) := by
    intro p
    unfold evaluatedVerdict
    cases enrichGovernanceRequest py signals p headers with
    | error e => rfl
    | ok enriched =>
      cases hres : evaluateGovernanceRequest py env bundle
          (some (buildTelemetryStage py signals enriched.1 enriched.2.1 enriched.2.2)) capabilities
          enriched.1 with
      | error e => simp only [bind, Except.bind, hres]; rfl
      | ok res => simp only [bind, Except.bind, hres]; rfl
  rw [hverdict, hverdict, enrich_eq hheaders, enrich_eq hheaders, hmodel, hinput, houtput, hteam,
    hnamespace]
  cases deriveRequestCost py signals p₁.model p₁.inputTokens p₁.outputTokens
    (snapshotCost (signals.quotaState p₁.team)) with
  | error e => rfl
  | ok cost =>
    show Except.map _ (evaluateGovernanceRequest py env bundle _ capabilities _)
      = Except.map _ (evaluateGovernanceRequest py env bundle _ capabilities _)
    by_cases hknown : CountersKnown (signals.quotaState p₁.team)
    · rw [overlayCounters_known hsame hknown]
    · have hunavailable := not_countersKnown py signals hknown
      rw [(hunavailable p₁ p₁.team).1, (hunavailable p₂ p₁.team).1, overlayDerived_same hsame]
      exact evaluate_counted py env bundle capabilities _ _ _
        ((hunavailable p₁ p₁.team).2 _ _) ((hunavailable p₁ p₁.team).2 _ _) Iff.rfl

/-- A server that verifies its tokens and has lost its quota backend. -/
def verifyingSignals : SignalsEnv where
  auth := {
    jwtVerify := true
    verifyBearerToken := fun _ => none
    decodeUnsignedPayload := fun _ => none }
  quotaState := fun team => some { team := team, source := .unavailable, unavailable := true }
  prometheus := fun _ _ => {}

/-- A client that claims to have used nothing gets the verdict of one that admits its use. -/
theorem evaluatedVerdict_eq_unavailable :
    allowClientGovernanceSignals .ascii verifyingSignals (fun _ => none) = false ∧
      evaluatedVerdict .ascii verifyingSignals (plainEnv .approvalRequired) shippedBundle
          noCapabilities { requestsLastMinute := 100000, tokensToday := 9000000 } (fun _ => none)
        = evaluatedVerdict .ascii verifyingSignals (plainEnv .approvalRequired) shippedBundle
          noCapabilities { requestsLastMinute := 0, tokensToday := 0 } (fun _ => none) :=
  ⟨by decide, evaluatedVerdict_eq .ascii verifyingSignals (plainEnv .approvalRequired)
    shippedBundle noCapabilities (fun _ => none) { requestsLastMinute := 0, tokensToday := 0 }
    { requestsLastMinute := 100000, tokensToday := 9000000 } (by decide) rfl⟩

example : evaluatedVerdict .ascii verifyingSignals (plainEnv .approvalRequired) shippedBundle
    noCapabilities { requestsLastMinute := 0, tokensToday := 0 } (fun _ => none)
      = .ok .approvalRequired := by
  decide +kernel

end ControlPlane.ClientSignals

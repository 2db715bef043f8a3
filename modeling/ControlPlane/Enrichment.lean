/-
# Server-derived signals (`app/governance_inputs.py`, `app/server_signals.py`)

Before an evaluation the server overlays its own counters, cost and sensitivity on the
request, unless the caller may supply them.  The pricing and the classification file are
given parsed; the state read from Redis and the signals read from Prometheus are inputs.
-/
import ControlPlane.Identity
import Mathlib.Data.Rat.Floor

namespace ControlPlane

variable (py : PyRuntime)

/-! ## Inputs -/

/-- The parsed `cost/pricing.yaml`. -/
structure PricingConfig where
  default : Entry := fun _ => none
  models : Dict Entry := fun _ => none

/-- The parsed `classification/tenants.yaml`. -/
structure ClassificationConfig where
  tenants : Dict Entry := fun _ => none
  namespaces : Dict Entry := fun _ => none
  sensitiveClassifications : List String := []

/-- The counters of a team in Redis. -/
structure QuotaStateSnapshot where
  team : String
  requestsLastMinute : ℤ := 0
  tokensToday : ℤ := 0
  monthToDateCostUsd : ℚ := 0
  source : QuotaSource := .request
  unavailable : Bool := false
  deriving DecidableEq, Repr

/-- The signals read from Prometheus. -/
structure PrometheusSignals where
  enabled : Bool := false
  gatewayP95LatencyMs : Option ℚ := none
  gatewayErrorRate : Option ℚ := none
  governanceBlockRate : Option ℚ := none
  tenantRequestRate : Option ℚ := none
  errors : List String := []
  deriving DecidableEq, Repr

/-- The configuration and the live state that an enrichment reads. -/
structure SignalsEnv where
  auth : AuthEnv
  pricing : PricingConfig := {}
  classification : ClassificationConfig := {}
  /-- `read_quota_state`, `none` when Redis is not configured -/
  quotaState : String → Option QuotaStateSnapshot
  /-- `fetch_prometheus_signals` for a team and a model -/
  prometheus : String → String → PrometheusSignals
  maxErrorRate : ℚ := 5 / 100
  maxP95LatencyMs : ℚ := 2500

variable (env : SignalsEnv)

/-! ## Who may supply signals -/

/-- The group and role claims that `allow_client_governance_signals` collects itself. -/
def rawClaimGroups (claims : Claims) : List String :=
  ["groups", "roles"].flatMap (fun key =>
    match claims.get key with
    | .arr items => items.map py.strJson
    | .str s => splitCsv s
    | _ => [])

/-- `allow_client_governance_signals`. -/
def allowClientGovernanceSignals (headers : Headers) : Bool :=
  if env.auth.allowClientSignals then true
  else if ¬ env.auth.jwtVerify then true
  else
    let claims := extractBearerClaims py env.auth headers
    if claims = [] then false
    else (rolesFromClaims py env.auth claims).any
        (fun role => role ∈ ["governance-simulate", "platform-admin"])
      || (rawClaimGroups py claims).any
        (fun role => role ∈ ["governance-simulate", "governance:simulate"])

/-! ## Derived cost and sensitivity -/

/-- `round(q, digits)`: half to even. -/
def roundTo (digits : ℕ) (q : ℚ) : ℚ :=
  let scaled := q * 10 ^ digits
  let below := ⌊scaled⌋
  let rest := scaled - below
  let nearest := if rest < 1 / 2 then below
    else if 1 / 2 < rest then below + 1
    else if below % 2 = 0 then below else below + 1
  nearest / 10 ^ digits

/-- `float(rates.get(key) or 0.0)`. -/
def rate (rates : Entry) (key : String) : Except PyError ℚ :=
  match rates key with
  | some v => if v.truthy then py.float v else .ok 0
  | none => .ok 0

/-- The cost fields of a request. -/
structure DerivedCost where
  costPerRequestUsd : ℚ
  costPerHourUsd : ℚ
  monthToDateCostUsd : ℚ
  forecastMonthlyCostUsd : ℚ
  deriving DecidableEq, Repr

/-- The default rates, overridden by those of the model. -/
def PricingConfig.rates (pricing : PricingConfig) (model : String) : Entry :=
  match pricing.models model with
  | some rates => fun key => (rates key).orElse (fun _ => pricing.default key)
  | none => pricing.default

/-- `derive_request_cost`. -/
def deriveRequestCost (model : String) (inputTokens outputTokens : ℤ) (monthCost : Option ℚ) :
    Except PyError DerivedCost := do
  let rates := env.pricing.rates model
  let inputRate ← rate py rates "input_usd_per_1k_tokens"
  let outputRate ← rate py rates "output_usd_per_1k_tokens"
  let costPerHour ← rate py rates "cost_per_hour_usd"
  let costPerRequest := max inputTokens 0 / 1000 * inputRate + max outputTokens 0 / 1000 * outputRate
  let month := monthCost.getD 0
  return {
    costPerRequestUsd := roundTo 8 costPerRequest
    costPerHourUsd := costPerHour
    monthToDateCostUsd := month
    forecastMonthlyCostUsd :=
      roundTo 4 (max (month * (125 / 100)) (costPerHour * 24 * 30 * (1 / 10))) }

/-- The sensitive labels, trimmed and lower-cased. -/
def sensitiveLabels : List String :=
  env.classification.sensitiveClassifications.map py.canonical

/-- The texts that count as true. -/
def trueTexts : List String := ["1", "true", "yes", "on"]

/-- The claims that classify a request as sensitive. -/
def claimsSensitive (claims : Claims) : Bool :=
  py.lower (claimText py claims ["data_classification", "classification"])
    ∈ sensitiveLabels py env

/-- The claims that permit writing. -/
def claimsWrite (claims : Claims) : Bool :=
  (normalizeGroups py (claims.get "groups") ++ normalizeGroups py (claims.get "roles")).any
      (fun role => role ∈ ["ai-writers", "writers", "deployers", "ai-deployers"])
    || py.lower (claimText py claims ["write_permission"]) ∈ trueTexts

/-- `derive_sensitivity`: `sensitive_data` and `write_permission`. -/
def deriveSensitivity (team «namespace» : String) (headers : Headers) : Bool × Bool :=
  let tenant : Entry := (env.classification.tenants team).getD (fun _ => none)
  let ns : Entry := (env.classification.namespaces «namespace»).getD (fun _ => none)
  let label := py.canonical (firstNonempty
    [headers.getD "x-ai-data-classification" "", headers.getD "x-ai-classification" ""])
  let claims := extractBearerClaims py env.auth headers
  let present : Bool := claims ≠ []
  (Entry.truthy tenant "default_sensitive" || Entry.truthy ns "sensitive"
      || (label ≠ "" && label ∈ sensitiveLabels py env)
      || (present && claimsSensitive py env claims),
    Entry.truthy tenant "write_allowed" || (present && claimsWrite py claims))

/-! ## Enrichment -/

/-- The live counters replace those of the request when Redis has them. -/
def overlayCounters (snapshot : Option QuotaStateSnapshot) (payload : GovernanceEvaluateRequest) :
    GovernanceEvaluateRequest :=
  match snapshot with
  | some s =>
    if s.unavailable then payload
    else { payload with requestsLastMinute := s.requestsLastMinute, tokensToday := s.tokensToday }
  | none => payload

/-- Without Redis the state counts as unavailable, except in a simulation. -/
def effectiveSnapshot (simulate : Bool) (team : String) (snapshot : Option QuotaStateSnapshot) :
    Option QuotaStateSnapshot :=
  match snapshot with
  | some s => some s
  | none =>
    if simulate then none
    else some { team := team, source := .unavailable, unavailable := true }

/-- The spend of the month, when Redis has it. -/
def snapshotCost (snapshot : Option QuotaStateSnapshot) : Option ℚ :=
  match snapshot with
  | some s => if s.unavailable then none else some s.monthToDateCostUsd
  | none => none

/-- The server's cost and sensitivity replace those of the request. -/
def overlayDerived (payload : GovernanceEvaluateRequest) (cost : DerivedCost)
    (sensitivity : Bool × Bool) : GovernanceEvaluateRequest :=
  { payload with
    costPerRequestUsd := cost.costPerRequestUsd
    costPerHourUsd := cost.costPerHourUsd
    monthToDateCostUsd := cost.monthToDateCostUsd
    forecastMonthlyCostUsd := cost.forecastMonthlyCostUsd
    sensitiveData := sensitivity.1
    writePermission := sensitivity.2 }

/-- `enrich_governance_request`. -/
def enrichGovernanceRequest (payload : GovernanceEvaluateRequest) (headers : Headers) :
    Except PyError
      (GovernanceEvaluateRequest × Option QuotaStateSnapshot × PrometheusSignals) := do
  let simulate := allowClientGovernanceSignals py env headers
  let read := env.quotaState payload.team
  let snapshot := effectiveSnapshot simulate payload.team read
  let signals := env.prometheus payload.team payload.model
  let counted := overlayCounters read payload
  if simulate then return (counted, snapshot, signals)
  else
    let cost ← deriveRequestCost py env payload.model payload.inputTokens payload.outputTokens
      (snapshotCost read)
    let sensitivity := deriveSensitivity py env payload.team payload.namespace headers
    return (overlayDerived counted cost sensitivity, snapshot, signals)

/-- `prometheus_block_reasons`. -/
def prometheusBlockReasons (signals : PrometheusSignals) : List String :=
  if ¬ signals.enabled then []
  else
    signals.gatewayErrorRate.elim [] (fun rate => reasonIf (env.maxErrorRate < rate)
      ("live prometheus gateway_error_rate exceeded threshold (" ++ py.fixed 3 rate ++ ">"
        ++ py.fixed 3 env.maxErrorRate ++ ")"))
    ++ signals.gatewayP95LatencyMs.elim [] (fun latency => reasonIf (env.maxP95LatencyMs < latency)
      ("live prometheus gateway_p95_latency_ms exceeded threshold (" ++ py.fixed 0 latency ++ ">"
        ++ py.fixed 0 env.maxP95LatencyMs ++ ")"))

/-- `build_telemetry_stage`. -/
def buildTelemetryStage (payload : GovernanceEvaluateRequest)
    (snapshot : Option QuotaStateSnapshot) (signals : PrometheusSignals) :
    GovernanceTelemetryStage where
  quotaSource := match snapshot with
    | none => .request
    | some s => if s.unavailable then .unavailable else s.source
  requestsLastMinute := payload.requestsLastMinute
  tokensToday := payload.tokensToday
  prometheusEnabled := signals.enabled
  gatewayP95LatencyMs := signals.gatewayP95LatencyMs
  gatewayErrorRate := signals.gatewayErrorRate
  governanceBlockRate := signals.governanceBlockRate
  tenantRequestRate := signals.tenantRequestRate
  prometheusErrors := signals.errors
  blockReasons := prometheusBlockReasons py env signals

/-- `apply_supply_chain_headers`. -/
def applySupplyChainHeaders (payload : GovernanceEvaluateRequest) (headers : Headers) :
    GovernanceEvaluateRequest :=
  { payload with
    modelArtifactDigest :=
      orElse (headerText headers "x-ai-model-digest") payload.modelArtifactDigest
    modelRevision := orElse (headerText headers "x-ai-model-revision") payload.modelRevision
    region := orElse (headerText headers "x-ai-region") payload.region }

end ControlPlane

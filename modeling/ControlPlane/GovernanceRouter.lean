/-
# `POST /governance/evaluate` (`app/routers/governance.py`)

The endpoint merges the identity of the caller into the request, tries to redeem the
approval that the request cites, and otherwise enriches the request, runs the pipeline and
records its decision.
-/
import ControlPlane.DurableGovernance
import ControlPlane.Enrichment
import ControlPlane.PolicyLifecycle

namespace ControlPlane

open Transaction

/-- What an API process is configured with. -/
structure Server where
  py : PyRuntime
  /-- the hexadecimal SHA-256 digest of the UTF-8 encoding of a text -/
  sha256 : String → String
  engine : EngineEnv
  signals : SignalsEnv
  approvalTtlSeconds : ℤ := 3600
  /-- `_load_from_record` -/
  loadBundle : SourceJson → Except PyError PolicyBundle

namespace Server

variable (server : Server)

/-- The request with the identity of its caller. -/
def mergedRequest (headers : Headers) (body : GovernanceEvaluateRequest) :
    Except PyError GovernanceEvaluateRequest :=
  let payload := applySupplyChainHeaders body headers
  match resolveWorkloadIdentity server.py server.signals.auth headers payload with
  | .ok identity => .ok (applyIdentity payload identity)
  | .error (.authenticationError text) => .error (.httpException 401 text)
  | .error e => .error e

/-- `_raise_store_unavailable`, on the exception it is called for. -/
def storeException : PyError → PyError
  | .storeUnavailable _ => .httpException 503 "authoritative store unavailable"
  | e => e

/-- The response of a request that an approval pays for. -/
def grantedResponse (merged : GovernanceEvaluateRequest) (approvalId : String)
    (bundle : PolicyBundle) : GovernanceEvaluateResponse where
  finalVerdict := .allow
  policyPack := orElse merged.policyPack "default"
  reasons := ["durable approval grants allow"]
  flow := ["request", "durable_approval", "final_verdict"]
  stages := []
  approvalId := some approvalId
  policyBundleId := some bundle.bundleId
  policyDigest := some bundle.contentDigest

/-- `approval_grants_allow` for an approval id that may be empty. -/
def redeem (process : PolicyProcess) (merged : GovernanceEvaluateRequest) (approvalId : String)
    (draws : Draws) (clock : ℕ → Instant) : StoreM Bool :=
  if approvalId = "" then return false
  else approvalGrantsAllow server.py server.sha256 approvalId merged process.bundle.contentDigest
    draws.consumedEvent clock

/-- The branch of a granted approval; the response is built, recorded and audited. -/
def allowRedeemed (process : PolicyProcess) (merged : GovernanceEvaluateRequest)
    (approvalId : String) (draws : Draws) (clock : ℕ → Instant) :
    StoreM GovernanceEvaluateResponse := do
  pythonStep
  let result ← persistEvaluation server.py server.sha256
    (grantedResponse merged approvalId process.bundle) merged draws server.approvalTtlSeconds clock
  pythonStep
  return result

/-- `evaluate_governance_request` with the bundle of the synchronised process. -/
def evaluateSynced (process : PolicyProcess) (telemetry : Option GovernanceTelemetryStage)
    (payload : GovernanceEvaluateRequest) : StoreM GovernanceEvaluateResponse := do
  let synced ← syncActiveFromStore server.loadBundle process false
  let stages ← Prog.done (runBundle server.py server.engine synced.1.bundle telemetry payload)
  let digests ← currentDigests server.py server.sha256 payload
  return respond synced.1.bundle telemetry stages digests

/-- The branch without a granted approval. -/
def evaluateFresh (process : PolicyProcess) (headers : Headers)
    (merged : GovernanceEvaluateRequest) (draws : Draws) (clock : ℕ → Instant) :
    StoreM GovernanceEvaluateResponse := do
  let enriched ← Prog.done (enrichGovernanceRequest server.py server.signals merged headers)
  let telemetry := buildTelemetryStage server.py server.signals enriched.1 enriched.2.1
    enriched.2.2
  let result ← evaluateSynced server process (some telemetry) enriched.1
  let result ← persistEvaluation server.py server.sha256 result enriched.1 draws
    server.approvalTtlSeconds clock
  return result

/-- The `try` block of the endpoint, and whether an approval paid for the request. -/
def evaluateOrRedeem (process : PolicyProcess) (headers : Headers)
    (merged : GovernanceEvaluateRequest) (draws : Draws) (clock : ℕ → Instant) :
    StoreM (GovernanceEvaluateResponse × Bool) := do
  let approvalId := headerText headers "x-ai-approval-id"
  let granted ← server.redeem process merged approvalId draws clock
  if granted then
    let result ← server.allowRedeemed process merged approvalId draws (fun i => clock (i + 4))
    return (result, true)
  else
    let result ← server.evaluateFresh process headers merged draws (fun i => clock (i + 4))
    return (result, false)

/-- The response to a request whose decision is recorded; a fresh one is audited first. -/
def auditFresh (outcome : GovernanceEvaluateResponse × Bool) :
    StoreM GovernanceEvaluateResponse :=
  if outcome.2 then return outcome.1
  else do
    pythonStep
    return outcome.1

/-- The body of the endpoint after the identity is resolved. -/
def evaluateMerged (process : PolicyProcess) (headers : Headers)
    (merged : GovernanceEvaluateRequest) (draws : Draws) (clock : ℕ → Instant) :
    StoreM GovernanceEvaluateResponse := do
  let outcome ← Prog.handle (server.evaluateOrRedeem process headers merged draws clock)
    (fun e => throw (storeException e))
  auditFresh outcome

/-- `POST /governance/evaluate`. -/
def governanceEvaluate (process : PolicyProcess) (headers : Headers)
    (body : GovernanceEvaluateRequest) (draws : Draws) (clock : ℕ → Instant) :
    StoreM GovernanceEvaluateResponse := do
  let merged ← Prog.done (server.mergedRequest headers body)
  let draws := { draws with requestId := orElse (headers.getD "x-request-id" "") draws.requestId }
  server.evaluateMerged process headers merged draws clock

end Server

end ControlPlane

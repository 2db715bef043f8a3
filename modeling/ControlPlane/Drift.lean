/-
# Inventory drift

What a probe of the backends reports (`app/drift_service.py`), the actions that are suggested
for it (`app/drift_actions.py`), and the contract by which a remediation is verified
(`app/verification_contract.py`).
-/
import ControlPlane.Request

namespace ControlPlane

/-! ## The report of a probe -/

/-- The backends that are probed. -/
inductive DriftBackend where
  | ollama
  | vllm
  deriving DecidableEq, Repr

/-- The text of a backend. -/
def DriftBackend.name : DriftBackend → String
  | ollama => "ollama"
  | vllm => "vllm"

/-- `BackendDrift`. -/
structure BackendDrift where
  backend : DriftBackend
  probeHealthy : Bool
  probeError : Option String
  desiredModels : List String
  actualModels : List String
  missingOnBackend : List String
  unexpectedOnBackend : List String
  inSync : Bool
  deriving DecidableEq, Repr

/-- `DriftStatus`: what an inventory has found. -/
structure DriftStatus where
  updatedAt : String
  inSync : Bool
  summary : String
  backends : List BackendDrift
  deriving DecidableEq, Repr

/-! ## Suggested actions -/

/-- The kinds of suggested actions. -/
inductive DriftActionKind where
  | pullModel
  | updateInventory
  | openGithubIssue
  | openGithubPr
  | reprobe
  deriving DecidableEq, Repr

/-- The text of a kind. -/
def DriftActionKind.name : DriftActionKind → String
  | pullModel => "pull_model"
  | updateInventory => "update_inventory"
  | openGithubIssue => "open_github_issue"
  | openGithubPr => "open_github_pr"
  | reprobe => "reprobe"

/-- `DriftSuggestedAction`. -/
structure DriftSuggestedAction where
  kind : DriftActionKind
  title : String
  description : String
  backend : Option String := none
  model : Option String := none
  command : Option String := none
  issueTitle : Option String := none
  issueBody : Option String := none
  prTitle : Option String := none
  prBody : Option String := none
  deriving DecidableEq, Repr

/-- The action for a backend whose probe failed. -/
def reprobeAction (b : BackendDrift) : DriftSuggestedAction where
  kind := .reprobe
  title := s!"Restore {b.backend.name} probe connectivity"
  description := s!"{b.backend.name} probe failed" ++
    (if b.probeError.getD "" = "" then "" else ": " ++ b.probeError.getD "")
  backend := some b.backend.name
  command := some (match b.backend with
    | .ollama => "curl -fsS \"$OLLAMA_BASE_URL/api/tags\""
    | .vllm => "curl -fsS \"$VLLM_BASE_URL/v1/models\"")

/-- The action for a model that a backend should serve. -/
def pullAction (b : BackendDrift) (model : String) : DriftSuggestedAction where
  kind := .pullModel
  title := s!"Provision missing model {model}"
  description := s!"Inventory expects {model} on {b.backend.name}, " ++
    "but the live probe does not expose it."
  backend := some b.backend.name
  model := some model
  command := some (match b.backend with
    | .ollama => s!"ollama pull {model}"
    | .vllm => s!"# ensure vLLM serves '{model}' or remove it from inventory")

/-- The action for a model that a backend should not serve. -/
def updateInventoryAction (b : BackendDrift) (model : String) : DriftSuggestedAction where
  kind := .updateInventory
  title := s!"Reconcile unexpected model {model}"
  description := s!"{b.backend.name} exposes {model}, which is not in " ++
    "configured inventory. Add it to MODEL_INVENTORY or unload it."
  backend := some b.backend.name
  model := some model
  command := some "# edit fleet/model inventory ConfigMap / MODEL_INVENTORY_PATH"

/-- The actions for one backend. -/
def backendActions (b : BackendDrift) : List DriftSuggestedAction :=
  if ¬ b.probeHealthy then [reprobeAction b]
  else b.missingOnBackend.map (pullAction b) ++ b.unexpectedOnBackend.map (updateInventoryAction b)

/-- The models of all backends in a list, with their backends. -/
def listed (models : BackendDrift → List String) (status : DriftStatus) : String :=
  orElse (", ".intercalate (status.backends.flatMap
    (fun b => (models b).map (fun m => b.backend.name ++ ":" ++ m)))) "none"

/-- The suggestion to open an issue. -/
def issueAction (status : DriftStatus) : DriftSuggestedAction where
  kind := .openGithubIssue
  title := "Open GitHub issue for drift"
  description := "Track remediation with operators via GitOps issue."
  issueTitle := some s!"Inventory drift: {status.summary}"
  issueBody := some ("## Inventory drift detected\n\n" ++
    s!"**Summary:** {status.summary}\n\n" ++
    "**Missing on backend:** " ++ listed BackendDrift.missingOnBackend status ++ "\n" ++
    "**Unexpected on backend:** " ++ listed BackendDrift.unexpectedOnBackend status ++ "\n\n" ++
    "### Suggested next steps\n" ++
    "1. Confirm probe health for Ollama/vLLM.\n" ++
    "2. Pull or unload models, or update inventory.\n" ++
    "3. Re-check `GET /drift` until `in_sync=true`.\n")

/-- The suggestion to open a pull request. -/
def prAction (status : DriftStatus) : DriftSuggestedAction where
  kind := .openGithubPr
  title := "Open inventory reconciliation PR"
  description := "Propose inventory ConfigMap changes when unexpected models " ++
    "should become desired state."
  prTitle := some "fix: reconcile model inventory with live probes"
  prBody := some ("## Why\n\n" ++ s!"{status.summary}\n\n" ++ "## Changes\n\n" ++
    "- Update model inventory to match approved live backends\n" ++
    "- Or document intentional removals\n\n" ++ "## Validation\n\n" ++
    "- [ ] `GET /drift` returns `in_sync: true`\n")

/-- The actions of `build_drift_actions`. -/
def buildDriftActions (status : DriftStatus) : List DriftSuggestedAction :=
  if status.inSync then []
  else status.backends.flatMap backendActions ++ [issueAction status, prAction status]

/-! ## Verification -/

/-- The checks of a verification. -/
inductive CheckName where
  | inventoryDrift
  | baselineClosure
  | probeFreshness
  deriving DecidableEq, Repr

/-- How a check has ended. -/
inductive CheckStatus where
  | pass
  | fail
  | skipped
  deriving DecidableEq, Repr

/-- How a verification has ended. -/
inductive VerifyOutcome where
  | verified
  | failed
  deriving DecidableEq, Repr

/-- A check with its result. -/
structure VerificationCheck where
  name : CheckName
  status : CheckStatus
  detail : String := ""
  deriving DecidableEq, Repr

/-- `BaselineClosure`: which of the drift at the start is gone. -/
structure BaselineClosure where
  baselineMissing : List String := []
  stillMissing : List String := []
  resolved : List String := []
  closed : Bool := true
  deriving DecidableEq, Repr

/-- `schema_version` and `gitops_sync` are constants. -/
structure RuntimeVerificationSnapshot where
  verifiedAt : String
  proposalId : String
  outcome : VerifyOutcome
  inventory : DriftStatus
  checks : List VerificationCheck
  baselineClosure : BaselineClosure
  deriving DecidableEq, Repr

/-- The models that some backend misses, each once. -/
def missingModels (status : DriftStatus) : List String :=
  status.backends.foldl (fun missing b => b.missingOnBackend.foldl
    (fun missing name => if name ≠ "" ∧ name ∉ missing then missing ++ [name] else missing)
    missing) []

/-- `build_baseline_closure`. -/
def buildBaselineClosure (baseline current : DriftStatus) : BaselineClosure :=
  let baselineMissing := missingModels baseline
  let currentMissing := missingModels current
  let stillMissing := baselineMissing.filter (fun name => name ∈ currentMissing)
  if baselineMissing = [] then {}
  else {
    baselineMissing := baselineMissing
    stillMissing := stillMissing
    resolved := baselineMissing.filter (fun name => name ∉ currentMissing)
    closed := stillMissing = [] }

/-- The checks of `build_verification_snapshot`. -/
def verificationChecks (inventory baseline : DriftStatus) (probeFresh : Bool) :
    List VerificationCheck :=
  let closure := buildBaselineClosure baseline inventory
  [{ name := .probeFreshness
     status := if probeFresh then .pass else .skipped
     detail := if probeFresh then "fresh probes" else "injected drift fixture" },
   { name := .inventoryDrift
     status := if inventory.inSync then .pass else .fail
     detail := orElse inventory.summary
      (if inventory.inSync then "inventory in sync" else "inventory drifting") },
   if closure.baselineMissing = [] then
     { name := .baselineClosure, status := .skipped, detail := "no baseline missing models" }
   else
     { name := .baselineClosure
       status := if closure.closed then .pass else .fail
       detail := if closure.closed then "baseline missing models resolved"
        else "still missing: " ++ ", ".intercalate closure.stillMissing }]

/-- `build_verification_snapshot`. -/
def buildVerificationSnapshot (proposalId : String) (inventory baseline : DriftStatus)
    (probeFresh : Bool) (verifiedAt : String) : RuntimeVerificationSnapshot :=
  let checks := verificationChecks inventory baseline probeFresh
  { verifiedAt := verifiedAt
    proposalId := proposalId
    outcome := if checks.any (fun c => c.status = .fail) then .failed else .verified
    inventory := inventory
    checks := checks
    baselineClosure := buildBaselineClosure baseline inventory }

end ControlPlane

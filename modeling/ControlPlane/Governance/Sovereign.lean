/-
# The residency engine (`governance/sovereign/evaluate.py`)

A region can refuse external providers, and a model can be confined to regions.
This engine is the one that trims and lower-cases the provider before comparing.
-/
import ControlPlane.Governance.PolicyPack

namespace ControlPlane.Sovereign

variable (py : PyRuntime)

/-- The result of `evaluate_residency`. -/
structure SovereignResult where
  region : String
  forbidden : Bool
  reasons : List String
  externalProvider : Bool
  deriving DecidableEq, Repr

/-- The region of the row, or the default region. -/
def resolveRegion (row : PipelineRow) (residency : ResidencyConfig) : String :=
  orElse (strip row.region) residency.defaultRegion

/-- The request leaves for an external provider. -/
def externalProvider (row : PipelineRow) (modelEntry : Option Entry) : Bool :=
  py.canonical row.provider ∈ PolicyPack.externalProviders
    || modelEntry.elim false (fun entry => entry.truthy "external_provider")

/-- The reasons why a region forbids a request. -/
def residencyReasons (row : PipelineRow) (residency : ResidencyConfig)
    (modelEntry : Option Entry) : List String :=
  let region := resolveRegion row residency
  let regionRules := residency.regions.getD region (fun _ => none)
  let external := externalProvider py row modelEntry
  reasonIf (regionRules.truthy "block_external_providers" ∧ external)
    ("region " ++ region ++ " blocks external model providers for data residency")
  ++ reasonIf (regionRules.truthy "require_local_model" ∧ external)
    ("region " ++ region ++ " requires local/on-prem models only")
  ++ reasonIf (modelEntry.elim false (fun entry =>
      entry.nonemptyListExcludes "allowed_regions" region))
    ("model " ++ row.model ++ " is not approved for region " ++ region)

/-- `evaluate_residency`. -/
def evaluateResidency (row : PipelineRow) (residency : ResidencyConfig)
    (modelEntry : Option Entry) : SovereignResult :=
  let reasons := residencyReasons py row residency modelEntry
  { region := resolveRegion row residency, forbidden := reasons ≠ [], reasons := reasons,
    externalProvider := externalProvider py row modelEntry }

/-- **The residency engine reads the provider up to spelling.** -/
theorem evaluateResidency_canonical (row : PipelineRow) (residency : ResidencyConfig)
    (modelEntry : Option Entry) (environment : String) :
    evaluateResidency py
      { row with provider := py.canonical row.provider, environment := environment }
      residency modelEntry = evaluateResidency py row residency modelEntry := by
  have hext : externalProvider py
      { row with provider := py.canonical row.provider, environment := environment } modelEntry
      = externalProvider py row modelEntry := by
    unfold externalProvider
    rw [PyRuntime.canonical_canonical]
  unfold evaluateResidency residencyReasons
  rw [hext]
  rfl

end ControlPlane.Sovereign

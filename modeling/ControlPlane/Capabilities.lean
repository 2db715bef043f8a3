/-
# Capability digests (`app/capability_service.py`)

The digests of the active capability contracts that an evaluation pins: one for the agent
of the request, one for the tools that the agent's contract lists.
-/
import ControlPlane.Store.Records
import ControlPlane.Json
import Mathlib.Data.List.Dedup

namespace ControlPlane

open Transaction

variable (py : PyRuntime) (sha256 : String → String)

/-- `_canonical_digest`. -/
def canonicalDigest (payload : List (String × Json.Value)) : String :=
  "sha256:" ++ sha256 (Json.dumps py.floats (.obj (Json.sortKeys payload)))

/-- `d.get(k₁) or d.get(k₂)` on a dictionary read from JSON. -/
def firstTruthy (fields : List (String × Json.Value)) (keys : List String) : Json.Value :=
  ((keys.map (fun key => (fields.lookup key).getD .null)).find? jsonTruthy).getD .null

/-- The tools that an agent's contract lists. -/
def toolNames (contract : CapabilityContractRow) : List String :=
  match firstTruthy contract.capabilities ["tools", "allowed_tools"] with
  | .arr items => (items.filter jsonTruthy).map py.strJson
  | _ => []

/-- The digest of a tool; of two contracts with one name the later counts. -/
def toolDigest (tools : List CapabilityContractRow) : Dict String := fun name =>
  ((tools.filter (fun t => t.contentDigest ≠ "")).reverse.find? (fun t => t.name = name)).map
    CapabilityContractRow.contentDigest

/-- The names and digests of the tools that count for an agent: those its contract lists, or
all active ones when it lists none. -/
def selectedTools (listed : List String) (tools : List CapabilityContractRow) :
    List (String × Json.Value) :=
  let names := if listed ≠ [] then listed else tools.map CapabilityContractRow.name
  ((names.insertionSort (· ≤ ·)).dedup).filterMap (fun name =>
    (toolDigest tools name).map (fun digest => (name, .str digest)))

/-- What `resolve_execution_capability_digests` makes of the active contracts: the agent's
digest and the tools' digest, empty where nothing is pinned. -/
def capabilityDigests (contract : Option CapabilityContractRow)
    (tools : List CapabilityContractRow) : String × String :=
  let selected := selectedTools (contract.elim [] (toolNames py)) tools
  (contract.elim "" CapabilityContractRow.contentDigest,
    if selected = [] then "" else canonicalDigest py sha256 selected)

/-- The filter for the active contract of an agent. -/
def agentFilter (agentName tenant : String) : ContractFilter where
  kind := "agent"
  status := some .active
  name := agentName
  tenantId := if tenant = "" then none else some tenant

/-- The filter of `get_active_capabilities("tool")`. -/
def toolFilter (tenant : String) : ContractFilter where
  kind := "tool"
  status := some .active
  tenantId := if tenant = "" then none else some tenant

/-- The active contract of an agent. -/
def findAgentContract (agentName tenant : String) : StoreM (Option CapabilityContractRow) :=
  if agentName = "" then return none
  else do
    let page ← listCapabilityContracts (agentFilter agentName tenant) 1 0
    return page.items.head?

/-- The active tools of a tenant: the first page of them. -/
def getActiveTools (tenant : String) : StoreM (List CapabilityContractRow) := do
  let page ← listCapabilityContracts (toolFilter tenant) 500 0
  return page.items

/-- `resolve_execution_capability_digests`. -/
def resolveExecutionCapabilityDigests (agent tenantId : String) : StoreM (String × String) := do
  let contract ← findAgentContract (strip agent) (strip tenantId)
  let tools ← getActiveTools (strip tenantId)
  return capabilityDigests py sha256 contract tools

end ControlPlane

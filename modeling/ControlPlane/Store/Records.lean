/-
# Decisions, audit rows and capability contracts (`app/decision_store.py`)

The methods of the store that write a decision or an audit row, read a decision back,
and keep the capability contracts.  New ids and the readings of the clock are arguments.
-/
import ControlPlane.Store.Schema

namespace ControlPlane

open Transaction

/-! ## Decisions and audit rows -/

/-- The arguments of `create_decision` that its callers give. -/
structure NewDecision where
  finalVerdict : Verdict
  requestId : String
  policyBundleId : String
  policyDigest : String
  team : String
  tenantId : String
  environment : String
  model : String
  subject : String
  reasons : List String
  stages : List (String × GovernanceStageResult)
  request : GovernanceEvaluateRequest
  requestDigest : String
  agentCapabilityDigest : String
  toolsCapabilityDigest : String

/-- The row that `create_decision` inserts. -/
def NewDecision.row (new : NewDecision) (decisionId : String) (now : Instant) : DecisionRow where
  decisionId := decisionId
  requestId := new.requestId
  finalVerdict := new.finalVerdict
  policyBundleId := new.policyBundleId
  policyDigest := new.policyDigest
  team := new.team
  tenantId := strip (orElse new.tenantId new.team)
  environment := new.environment
  model := new.model
  subject := new.subject
  reasons := new.reasons
  stages := new.stages
  request := new.request
  requestDigest := new.requestDigest
  agentCapabilityDigest := new.agentCapabilityDigest
  toolsCapabilityDigest := new.toolsCapabilityDigest
  createdAt := Timestamp.isoformat now

/-- `create_decision`, on the connection of a caller or in a session of its own. -/
def createDecision (new : NewDecision) (decisionId : String) (now : Instant) (conn : Bool) :
    StoreM String := do
  onConnection conn (insert (.decision (new.row decisionId now)))
  return decisionId

/-- The decision with a given id. -/
def findDecision (rows : List Row) (decisionId : String) : Option DecisionRow :=
  (decisions rows).find? (fun d => d.decisionId = decisionId)

/-- `_decision_from_row`: a decision without a tenant belongs to its team. -/
def DecisionRow.record (d : DecisionRow) : DecisionRow :=
  { d with tenantId := orElse d.tenantId d.team }

/-- `get_decision`; with a tenant only a decision of its own is found. -/
def getDecision (decisionId : String) (tenantId : Option String) :
    StoreM (Option DecisionRow) := do
  let rows ← session fetchAll
  match findDecision rows decisionId with
  | none => return none
  | some d =>
    if tenantId.any (fun t => d.record.tenantId ≠ t) then return none
    else return some d.record

/-- `append_audit_meta`, on the connection of a caller or in a session of its own. -/
def appendAuditMeta (decisionId eventType actor : String) (payload : List (String × Json.Value))
    (eventId : String) (now : Instant) (conn : Bool) : StoreM String := do
  onConnection conn (insert (.auditMeta {
    eventId := eventId, decisionId := decisionId, eventType := eventType, actor := actor,
    payload := payload, createdAt := Timestamp.isoformat now }))
  return eventId

/-! ## Capability contracts -/

/-- The filters of `list_capability_contracts`; an empty text filters nothing. -/
structure ContractFilter where
  kind : String := ""
  status : Option ContractStatus := none
  name : String := ""
  tenantId : Option String := none

/-- A row passes the filters. -/
def ContractFilter.admits (f : ContractFilter) (r : CapabilityContractRow) : Bool :=
  (f.kind = "" || r.kind = f.kind) && f.status.all (fun s => r.status = s)
    && (f.name = "" || r.name = f.name) && f.tenantId.all (fun t => r.tenantId = t)

/-- `SELECT * FROM capability_contracts … ORDER BY updated_at DESC LIMIT ? OFFSET ?`. -/
def selectContracts (f : ContractFilter) (limit offset : ℕ) (rows : List Row) :
    List CapabilityContractRow :=
  ((((capabilities rows).filter f.admits).insertionSort
    (fun a b => b.updatedAt ≤ a.updatedAt)).drop offset).take limit

/-- A page of `list_capability_contracts`. -/
structure CapabilityContractPage where
  items : List CapabilityContractRow
  total : ℕ
  limit : ℕ
  offset : ℕ

/-- `list_capability_contracts`; the limit and the offset are clamped. -/
def listCapabilityContracts (f : ContractFilter) (limit offset : ℤ) :
    StoreM CapabilityContractPage := do
  let limit := (max 1 (min limit 500)).toNat
  let offset := (max 0 offset).toNat
  session do
    let counted ← fetchAll
    let rows ← fetchAll
    return {
      items := selectContracts f limit offset rows
      total := ((capabilities counted).filter f.admits).length
      limit := limit
      offset := offset }

/-- The contract with a given content. -/
def findContractByDigest (rows : List Row) (kind name tenantId contentDigest : String) :
    Option CapabilityContractRow :=
  (capabilities rows).find? (fun r => r.kind = kind ∧ r.name = name ∧ r.tenantId = tenantId ∧
    r.contentDigest = contentDigest)

/-- `upsert_capability_contract` without an outer connection: `new` is the row it inserts,
with its fresh id. -/
def upsertCapabilityContract (new : CapabilityContractRow) : StoreM CapabilityContractRow := do
  let rows ← session fetchAll
  match findContractByDigest rows new.kind new.name new.tenantId new.contentDigest with
  | some existing => return existing
  | none =>
    session do
      insert (.capability new)
      let rows ← fetchAll
      commit
      match (capabilities rows).find? (fun r => r.contractId = new.contractId) with
      | some r => return r
      | none => throw (.runtimeError "assertion failed")

/-- Retire the active contracts with the kind, name and tenant of another contract. -/
def supersede (record : CapabilityContractRow) (now : String) : Change Row where
  guard
    | .capability r => r.kind = record.kind ∧ r.name = record.name ∧
        r.tenantId = record.tenantId ∧ r.status = .active ∧ r.contractId ≠ record.contractId
    | _ => false
  set
    | .capability r => some (.capability { r with status := .retired, updatedAt := now })
    | row => some row

/-- Set the status of one contract. -/
def setStatus (contractId : String) (status : ContractStatus) (now : String) : Change Row where
  guard
    | .capability r => r.contractId = contractId
    | _ => false
  set
    | .capability r => some (.capability { r with
        status := status, updatedAt := now
        activatedAt := if status = .active then some now else r.activatedAt })
    | row => some row

/-- `set_capability_contract_status`: activating a contract retires the active ones beside it. -/
def setCapabilityContractStatus (contractId : String) (status : ContractStatus)
    (now : Instant) : StoreM CapabilityContractRow := do
  let stamp := Timestamp.isoformat now
  session do
    let rows ← fetchAll
    match (capabilities rows).find? (fun r => r.contractId = contractId) with
    | none => throw (.keyError s!"capability contract not found: {contractId}")
    | some record =>
      if status = .active then
        let _ ← execute (supersede record stamp)
      let _ ← execute (setStatus contractId status stamp)
      let rows ← fetchAll
      commit
      match (capabilities rows).find? (fun r => r.contractId = contractId) with
      | some r => return r
      | none => throw (.runtimeError "assertion failed")

end ControlPlane

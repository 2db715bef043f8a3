/-
# Importing the registries (`app/capability_service.py`, `sync_from_filesystem`)

Every entry of the two registries becomes a contract under the digest of its content, and
with `activate` the contract of its kind, name and tenant that is active.  An import that
runs to its end leaves exactly one active contract for each entry, the one with the digest of
the entry, touches no other contract, and a second import writes nothing
(`sync_converges`).
-/
import ControlPlane.Capabilities
import ControlPlane.Store.SerialRules
import ControlPlane.Store.Frames

namespace ControlPlane

open Transaction

variable (py : PyRuntime) (sha256 : String → String)

/-! ## Registry entries -/

/-- `str | None` in a dump. -/
def strOrNull (s : Option String) : Json.Value := s.elim .null .str

/-- `list[str]` in a dump. -/
def strList (items : List String) : Json.Value := .arr (items.map .str)

/-- `AgentRegistryEntry`. -/
structure AgentRegistryEntry where
  name : String
  owner : Option String := none
  model : Option String := none
  policyPack : Option String := none
  tools : List String := []
  memoryTtlDays : Option ℤ := none
  allowedTeams : List String := []
  allowedNamespaces : List String := []
  forbidden : Bool := false

/-- `ToolRegistryEntry`. -/
structure ToolRegistryEntry where
  name : String
  owner : Option String := none
  riskTier : Option String := none
  mcpServer : Option String := none
  allowedActions : List String := []
  forbiddenActions : List String := []
  allowedTeams : List String := []
  allowedNamespaces : List String := []
  forbidden : Bool := false

/-- `agent.model_dump()`. -/
def AgentRegistryEntry.modelDump (agent : AgentRegistryEntry) : List (String × Json.Value) :=
  [("name", .str agent.name),
    ("owner", strOrNull agent.owner),
    ("model", strOrNull agent.model),
    ("policy_pack", strOrNull agent.policyPack),
    ("tools", strList agent.tools),
    ("memory_ttl_days", agent.memoryTtlDays.elim .null .int),
    ("allowed_teams", strList agent.allowedTeams),
    ("allowed_namespaces", strList agent.allowedNamespaces),
    ("forbidden", .bool agent.forbidden)]

/-- `tool.model_dump()`. -/
def ToolRegistryEntry.modelDump (tool : ToolRegistryEntry) : List (String × Json.Value) :=
  [("name", .str tool.name),
    ("owner", strOrNull tool.owner),
    ("risk_tier", strOrNull tool.riskTier),
    ("mcp_server", strOrNull tool.mcpServer),
    ("allowed_actions", strList tool.allowedActions),
    ("forbidden_actions", strList tool.forbiddenActions),
    ("allowed_teams", strList tool.allowedTeams),
    ("allowed_namespaces", strList tool.allowedNamespaces),
    ("forbidden", .bool tool.forbidden)]

/-! ## The import -/

/-- What the loops of the import read of an entry. -/
structure RegistryEntry where
  kind : String
  name : String
  payload : List (String × Json.Value)

/-- An agent in the import. -/
def AgentRegistryEntry.entry (agent : AgentRegistryEntry) : RegistryEntry where
  kind := "agent"
  name := agent.name
  payload := agent.modelDump

/-- A tool in the import. -/
def ToolRegistryEntry.entry (tool : ToolRegistryEntry) : RegistryEntry where
  kind := "tool"
  name := tool.name
  payload := tool.modelDump

/-- The digest of the content of an entry. -/
def RegistryEntry.digest (entry : RegistryEntry) : String :=
  canonicalDigest py sha256 entry.payload

/-- What an iteration draws: the id of a new contract and the times of its two calls. -/
structure SyncDraw where
  contractId : String
  upsertAt : Instant
  activateAt : Instant

/-- `digest[-12:]`. -/
def lastTwelve (digest : String) : String :=
  String.ofList (digest.toList.drop (digest.toList.length - 12))

/-- The row that `upsert_capability_contract` inserts for an entry. -/
def draftOf (tenantId : String) (draw : SyncDraw) (entry : RegistryEntry) :
    CapabilityContractRow where
  contractId := draw.contractId
  kind := entry.kind
  name := entry.name
  tenantId := tenantId
  status := .draft
  version := lastTwelve (entry.digest py sha256)
  contentDigest := entry.digest py sha256
  capabilities := entry.payload
  source := "filesystem"
  createdAt := Timestamp.isoformat draw.upsertAt
  updatedAt := Timestamp.isoformat draw.upsertAt
  activatedAt := none

/-- One iteration of either loop. -/
def syncEntry (tenantId : String) (activate : Bool) (draw : SyncDraw) (entry : RegistryEntry) :
    StoreM CapabilityContractRow := do
  let record ← upsertCapabilityContract (draftOf py sha256 tenantId draw entry)
  if activate ∧ record.status ≠ .active then
    setCapabilityContractStatus record.contractId .active draw.activateAt
  else return record

/-- A loop, from its `n`-th draw on. -/
def syncEntries (tenantId : String) (activate : Bool) (draws : ℕ → SyncDraw) :
    ℕ → List RegistryEntry → StoreM (List CapabilityContractRow)
  | _, [] => return []
  | n, entry :: entries => do
    let record ← syncEntry py sha256 tenantId activate (draws n) entry
    let synced ← syncEntries tenantId activate draws (n + 1) entries
    return record :: synced

/-- `sync_from_filesystem`.  The tool registry is read after the agents have been imported. -/
def syncFromFilesystem (tenantId : String) (activate : Bool)
    (buildAgentRegistry : Except PyError (List AgentRegistryEntry))
    (buildToolRegistry : Except PyError (List ToolRegistryEntry)) (draws : ℕ → SyncDraw) :
    StoreM (List CapabilityContractRow) := do
  let agents ← Prog.done buildAgentRegistry
  let synced ← syncEntries py sha256 tenantId activate draws 0
    (agents.map AgentRegistryEntry.entry)
  let tools ← Prog.done buildToolRegistry
  let syncedTools ← syncEntries py sha256 tenantId activate draws agents.length
    (tools.map ToolRegistryEntry.entry)
  return synced ++ syncedTools

/-! ## Contracts by kind, name and tenant -/

/-- The contracts that compete for being active. -/
def CapabilityContractRow.group (c : CapabilityContractRow) : String × String × String :=
  (c.kind, c.name, c.tenantId)

/-- The group of the contracts of an entry. -/
def RegistryEntry.group (tenantId : String) (entry : RegistryEntry) : String × String × String :=
  (entry.kind, entry.name, tenantId)

/-- The contracts of a group. -/
def contractsOf (group : String × String × String) (rows : List Row) :
    List CapabilityContractRow :=
  (capabilities rows).filter (fun c => c.group = group)

/-- The active contracts of a group. -/
def activeOf (group : String × String × String) (rows : List Row) :
    List CapabilityContractRow :=
  (contractsOf group rows).filter (fun c => c.status = .active)

/-- The contracts of a group with a digest. -/
def withDigest (group : String × String × String) (digest : String) (rows : List Row) :
    List CapabilityContractRow :=
  (contractsOf group rows).filter (fun c => c.contentDigest = digest)

/-- The row is a contract of one of the groups. -/
def Row.within (groups : List (String × String × String)) : Row → Bool
  | .capability c => c.group ∈ groups
  | _ => false

/-- The contract under another status. -/
structure CapabilityContractRow.SameContent (c c' : CapabilityContractRow) : Prop where
  contractId : c'.contractId = c.contractId
  group : c'.group = c.group
  version : c'.version = c.version
  contentDigest : c'.contentDigest = c.contentDigest
  capabilities : c'.capabilities = c.capabilities
  source : c'.source = c.source
  createdAt : c'.createdAt = c.createdAt

/-! ## What an iteration does to the rows -/

/-- The contract that the upsert returns, and the rows after it. -/
def upserted (new : CapabilityContractRow) (rows : List Row) :
    CapabilityContractRow × List Row :=
  match findContractByDigest rows new.kind new.name new.tenantId new.contentDigest with
  | some existing => (existing, rows)
  | none => (new, rows ++ [.capability new])

/-- A contract after the activation of one of its group. -/
def activated (record : CapabilityContractRow) (now : String) (c : CapabilityContractRow) :
    CapabilityContractRow :=
  if c.contractId = record.contractId then
    { c with status := .active, updatedAt := now, activatedAt := some now }
  else if c.group = record.group ∧ c.status = .active then
    { c with status := .retired, updatedAt := now }
  else c

/-- A change of the contracts. -/
def onContracts (f : CapabilityContractRow → CapabilityContractRow) : Row → Row
  | .capability c => .capability (f c)
  | row => row

/-- The rows after an iteration. -/
def afterEntry (activate : Bool) (new : CapabilityContractRow) (now : String)
    (rows : List Row) : List Row :=
  if activate ∧ (upserted new rows).1.status ≠ .active then
    (upserted new rows).2.map (onContracts (activated (upserted new rows).1 now))
  else (upserted new rows).2

/-! ## The groups of the rows -/

section Groups

variable {rows : List Row} {group : String × String × String}

theorem capabilities_map (f : CapabilityContractRow → CapabilityContractRow) :
    capabilities (rows.map (onContracts f)) = (capabilities rows).map f := by
  unfold capabilities
  rw [List.filterMap_map, List.map_filterMap]
  exact List.filterMap_congr (fun row _ => by cases row <;> rfl)

theorem contractsOf_map {f : CapabilityContractRow → CapabilityContractRow}
    (hf : ∀ c, (f c).group = c.group) :
    contractsOf group (rows.map (onContracts f)) = (contractsOf group rows).map f := by
  unfold contractsOf
  rw [capabilities_map, List.filter_map]
  refine congrArg (List.map f) (List.filter_congr (fun c _ => ?_))
  show decide ((f c).group = group) = decide (c.group = group)
  rw [hf]

theorem contractsOf_append (new : CapabilityContractRow) :
    contractsOf group (rows ++ [.capability new])
      = contractsOf group rows ++ if new.group = group then [new] else [] := by
  have hnew : [new].filter (fun c => decide (c.group = group))
      = if new.group = group then [new] else [] := by
    by_cases hgroup : new.group = group
    · rw [if_pos hgroup, List.filter_singleton, decide_eq_true hgroup]
      rfl
    · rw [if_neg hgroup, List.filter_singleton, decide_eq_false hgroup]
      rfl
  rw [← hnew]
  unfold contractsOf
  rw [capabilities_append, List.filter_append]
  rfl

/-- The upsert looks for the first contract of the group with the digest. -/
theorem findContractByDigest_eq (kind name tenantId digest : String) :
    findContractByDigest rows kind name tenantId digest
      = (withDigest (kind, name, tenantId) digest rows).head? := by
  unfold withDigest contractsOf findContractByDigest
  rw [List.filter_filter, List.head?_filter]
  refine congrArg (fun p => (capabilities rows).find? p) (funext fun c => ?_)
  simp only [CapabilityContractRow.group, Prod.mk.injEq, ← Bool.decide_and, decide_eq_decide]
  tauto

theorem mem_contractsOf {c : CapabilityContractRow} :
    c ∈ contractsOf group rows ↔ c ∈ capabilities rows ∧ c.group = group := by
  unfold contractsOf
  rw [List.mem_filter, decide_eq_true_eq]

/-- The ids of the contracts are keys. -/
theorem nodup_contractIds (hkeys : (rows.map Row.key).Nodup) :
    ((capabilities rows).map CapabilityContractRow.contractId).Nodup := by
  have hids : (capabilities rows).map CapabilityContractRow.contractId
      = (rows.map Row.key).filterMap
        (fun key => match key with | .capability id => some id | _ => none) := by
    unfold capabilities
    rw [List.map_filterMap, List.filterMap_map]
    exact List.filterMap_congr (fun row _ => by cases row <;> rfl)
  rw [hids]
  refine hkeys.filterMap ?_
  intro a b id ha hb
  cases a <;> cases ha
  cases b <;> cases hb
  rfl

theorem eq_of_contractId (hkeys : (rows.map Row.key).Nodup) {c c' : CapabilityContractRow}
    (hc : c ∈ capabilities rows) (hc' : c' ∈ capabilities rows)
    (hid : c.contractId = c'.contractId) : c = c' :=
  List.inj_on_of_nodup_map (nodup_contractIds hkeys) hc hc' hid

/-- Among the contracts of a group, an id picks one. -/
theorem filter_contractId (hkeys : (rows.map Row.key).Nodup) {c : CapabilityContractRow}
    (hc : c ∈ contractsOf group rows) :
    (contractsOf group rows).filter (fun c' => c'.contractId = c.contractId) = [c] := by
  have hmem : c ∈ (contractsOf group rows).filter (fun c' => c'.contractId = c.contractId) :=
    List.mem_filter.mpr ⟨hc, decide_eq_true rfl⟩
  have hnodup : ((contractsOf group rows).filter
      (fun c' => c'.contractId = c.contractId)).Nodup :=
    (((nodup_contractIds hkeys).of_map _).filter _).filter _
  by_contra hne
  rcases (hnodup.ne_singleton_iff c).mp hne with hnil | ⟨c', hc', hother⟩
  · rw [hnil] at hmem
    cases hmem
  · obtain ⟨hc', hid⟩ := List.mem_filter.mp hc'
    exact hother (eq_of_contractId hkeys (mem_contractsOf.mp hc').1 (mem_contractsOf.mp hc).1
      (of_decide_eq_true hid))

end Groups

/-! ## Activation -/

section Activated

variable {rows : List Row} {group : String × String × String} {record : CapabilityContractRow}
  {now : String}

theorem activated_sameContent (c : CapabilityContractRow) :
    c.SameContent (activated record now c) := by
  unfold activated
  split_ifs <;> exact ⟨rfl, rfl, rfl, rfl, rfl, rfl, rfl⟩

theorem keys_activated :
    (rows.map (onContracts (activated record now))).map Row.key = rows.map Row.key := by
  rw [List.map_map]
  refine List.map_congr_left (fun row _ => ?_)
  cases row with
  | capability c => exact congrArg RowKey.capability (activated_sameContent c).contractId
  | _ => rfl

theorem contractsOf_activated :
    contractsOf group (rows.map (onContracts (activated record now)))
      = (contractsOf group rows).map (activated record now) :=
  contractsOf_map (fun c => (activated_sameContent c).group)

/-- An activation leaves a contract of another group alone. -/
theorem activated_of_group_ne (hkeys : (rows.map Row.key).Nodup)
    (hrecord : record ∈ capabilities rows) {c : CapabilityContractRow}
    (hc : c ∈ capabilities rows) (hgroup : c.group ≠ record.group) :
    activated record now c = c := by
  have hid : c.contractId ≠ record.contractId := by
    intro hid
    exact hgroup (congrArg _ (eq_of_contractId hkeys hc hrecord hid))
  rw [activated, if_neg hid, if_neg (fun h => hgroup h.1)]

theorem contractsOf_activated_of_ne (hkeys : (rows.map Row.key).Nodup)
    (hrecord : record ∈ capabilities rows) (hgroup : group ≠ record.group) :
    contractsOf group (rows.map (onContracts (activated record now)))
      = contractsOf group rows := by
  rw [contractsOf_activated]
  conv_rhs => rw [← List.map_id (contractsOf group rows)]
  refine List.map_congr_left (fun c hc => ?_)
  obtain ⟨hmem, hcgroup⟩ := mem_contractsOf.mp hc
  exact activated_of_group_ne hkeys hrecord hmem (hcgroup ▸ hgroup)

/-- **After an activation its contract is the only active one of the group.** -/
theorem activeOf_activated (hkeys : (rows.map Row.key).Nodup)
    (hrecord : record ∈ contractsOf group rows) :
    activeOf group (rows.map (onContracts (activated record now)))
      = [activated record now record] := by
  have hgroup := (mem_contractsOf.mp hrecord).2
  unfold activeOf
  rw [contractsOf_activated, List.filter_map]
  -- of the group only the record itself is active afterwards
  have hactive : (contractsOf group rows).filter
      ((fun c => decide (c.status = .active)) ∘ activated record now)
      = (contractsOf group rows).filter (fun c => c.contractId = record.contractId) := by
    refine List.filter_congr (fun c hc => ?_)
    have hcgroup := (mem_contractsOf.mp hc).2
    show decide ((activated record now c).status = .active) = _
    rw [decide_eq_decide]
    unfold activated
    by_cases hid : c.contractId = record.contractId
    · simp [hid]
    · by_cases hstatus : c.status = .active
      · simp [hid, hstatus, hcgroup, hgroup]
      · simp [hid, hstatus]
  rw [hactive, filter_contractId hkeys hrecord]
  rfl

end Activated

/-! ## What an import keeps -/

/-- Contracts of other groups and rows of other tables are the same; no contract is gone, and
no digest has a second contract that had not before. -/
structure Advances (groups : List (String × String × String)) (rows rows' : List Row) : Prop where
  others : rows'.filter (fun row => !row.within groups)
    = rows.filter (fun row => !row.within groups)
  kept : ∀ c ∈ capabilities rows, ∃ c' ∈ capabilities rows', c.SameContent c'
  unique : ∀ group digest,
    (withDigest group digest rows').length ≤ max 1 (withDigest group digest rows).length

section Advances

variable {groups : List (String × String × String)} {rows rows' rows'' : List Row}

theorem CapabilityContractRow.SameContent.trans {a b c : CapabilityContractRow}
    (h : a.SameContent b) (h' : b.SameContent c) : a.SameContent c :=
  ⟨h'.1.trans h.1, h'.2.trans h.2, h'.3.trans h.3, h'.4.trans h.4, h'.5.trans h.5,
    h'.6.trans h.6, h'.7.trans h.7⟩

theorem Advances.refl (groups : List (String × String × String)) (rows : List Row) :
    Advances groups rows rows where
  others := rfl
  kept c hc := ⟨c, hc, rfl, rfl, rfl, rfl, rfl, rfl, rfl⟩
  unique _ _ := le_max_right _ _

theorem Advances.trans (h : Advances groups rows rows') (h' : Advances groups rows' rows'') :
    Advances groups rows rows'' where
  others := h'.others.trans h.others
  kept c hc := by
    obtain ⟨c', hc', hsame⟩ := h.kept c hc
    obtain ⟨c'', hc'', hsame'⟩ := h'.kept c' hc'
    exact ⟨c'', hc'', hsame.trans hsame'⟩
  unique group digest := by
    have hfirst := h.unique group digest
    have hsecond := h'.unique group digest
    omega

/-- Inserting a contract with a new digest. -/
theorem advances_append {new : CapabilityContractRow} (hgroup : new.group ∈ groups)
    (hnone : withDigest new.group new.contentDigest rows = []) :
    Advances groups rows (rows ++ [.capability new]) where
  others := by
    have hnew : (!(Row.capability new).within groups) = false := by
      show (!decide (new.group ∈ groups)) = false
      rw [decide_eq_true hgroup]
      rfl
    rw [List.filter_append, List.filter_singleton, hnew]
    exact List.append_nil _
  kept c hc := ⟨c, by rw [capabilities_append]; exact List.mem_append_left _ hc, rfl, rfl, rfl,
    rfl, rfl, rfl, rfl⟩
  unique group digest := by
    unfold withDigest
    rw [contractsOf_append, List.filter_append, List.length_append]
    by_cases hsame : new.group = group ∧ new.contentDigest = digest
    · obtain ⟨rfl, rfl⟩ := hsame
      rw [withDigest] at hnone
      rw [hnone, if_pos rfl, List.length_nil, Nat.zero_add]
      exact le_max_of_le_left (List.length_filter_le _ _)
    · -- another digest, or another group, gets no contract
      have hother : ((if new.group = group then [new] else []).filter
          (fun c => decide (c.contentDigest = digest))).length = 0 := by
        by_cases hg : new.group = group
        · rw [if_pos hg, List.filter_singleton, decide_eq_false (fun hd => hsame ⟨hg, hd⟩)]
          rfl
        · rw [if_neg hg]
          rfl
      omega

theorem withDigest_activated {group : String × String × String} {digest : String}
    {record : CapabilityContractRow} {now : String} :
    withDigest group digest (rows.map (onContracts (activated record now)))
      = (withDigest group digest rows).map (activated record now) := by
  unfold withDigest
  rw [contractsOf_activated, List.filter_map]
  refine congrArg (List.map _) (List.filter_congr (fun c _ => ?_))
  show decide ((activated record now c).contentDigest = digest) = _
  rw [(activated_sameContent c).contentDigest]

/-- Activating a contract. -/
theorem advances_activated (hkeys : (rows.map Row.key).Nodup) {record : CapabilityContractRow}
    (hrecord : record ∈ capabilities rows) (hgroup : record.group ∈ groups) (now : String) :
    Advances groups rows (rows.map (onContracts (activated record now))) where
  others := by
    have hwithin : (fun row => !Row.within groups row) ∘ onContracts (activated record now)
        = fun row => !Row.within groups row := by
      funext row
      cases row with
      | capability c =>
        show (!decide ((activated record now c).group ∈ groups)) = _
        rw [(activated_sameContent c).group]
        rfl
      | _ => rfl
    rw [List.filter_map, hwithin]
    conv_rhs => rw [← List.map_id (rows.filter _)]
    refine List.map_congr_left (fun row hrow => ?_)
    obtain ⟨hmem, hout⟩ := List.mem_filter.mp hrow
    cases row with
    | capability c =>
      have hne : c.group ≠ record.group := by
        intro heq
        have hin : (Row.capability c).within groups = true := decide_eq_true (heq ▸ hgroup)
        rw [hin] at hout
        cases hout
      have hc : c ∈ capabilities rows := List.mem_filterMap.mpr ⟨_, hmem, rfl⟩
      exact congrArg Row.capability (activated_of_group_ne hkeys hrecord hc hne)
    | _ => rfl
  kept c hc := by
    refine ⟨activated record now c, ?_, activated_sameContent c⟩
    rw [capabilities_map]
    exact List.mem_map_of_mem hc
  unique group digest := by
    rw [withDigest_activated, List.length_map]
    exact le_max_right _ _

end Advances

/-! ## One iteration -/

section Entry

variable {groups : List (String × String × String)} {rows : List Row}
  {new : CapabilityContractRow} {now : String}

theorem upserted_cases (new : CapabilityContractRow) (rows : List Row) :
    (withDigest new.group new.contentDigest rows = [] ∧
      upserted new rows = (new, rows ++ [.capability new])) ∨
    (withDigest new.group new.contentDigest rows).head? = some (upserted new rows).1 ∧
      (upserted new rows).2 = rows := by
  unfold upserted
  rw [findContractByDigest_eq]
  show (withDigest new.group new.contentDigest rows = [] ∧ _) ∨
    (withDigest new.group new.contentDigest rows).head? = _ ∧ _
  cases hfind : (withDigest new.group new.contentDigest rows).head? with
  | none =>
    left
    have hhead : (withDigest (new.kind, new.name, new.tenantId) new.contentDigest rows).head?
        = none := hfind
    simp only [hhead]
    exact ⟨List.head?_eq_none_iff.mp hfind, trivial⟩
  | some existing =>
    right
    have hhead : (withDigest (new.kind, new.name, new.tenantId) new.contentDigest rows).head?
        = some existing := hfind
    simp only [hhead]
    exact ⟨trivial, trivial⟩

/-- The contract that the upsert returns is the first of the digest afterwards. -/
theorem head?_upserted (new : CapabilityContractRow) (rows : List Row) :
    (withDigest new.group new.contentDigest (upserted new rows).2).head?
      = some (upserted new rows).1 := by
  rcases upserted_cases new rows with ⟨hnone, hreg⟩ | ⟨hhead, hrows⟩
  · rw [hreg]
    unfold withDigest
    rw [contractsOf_append, List.filter_append]
    rw [withDigest] at hnone
    rw [hnone, if_pos rfl, List.nil_append, List.filter_singleton, decide_eq_true rfl]
    rfl
  · rw [hrows]
    exact hhead

theorem mem_upserted (new : CapabilityContractRow) (rows : List Row) :
    (upserted new rows).1 ∈ contractsOf new.group (upserted new rows).2 := by
  have hmem := List.mem_of_head? (head?_upserted new rows)
  exact (List.mem_filter.mp hmem).1

theorem advances_upserted (hgroup : new.group ∈ groups) :
    Advances groups rows (upserted new rows).2 := by
  rcases upserted_cases new rows with ⟨hnone, hreg⟩ | ⟨-, hrows⟩
  · rw [hreg]
    exact advances_append hgroup hnone
  · rw [hrows]
    exact .refl groups rows

theorem advances_afterEntry (hkeys : ((upserted new rows).2.map Row.key).Nodup)
    (hgroup : new.group ∈ groups) (activate : Bool) :
    Advances groups rows (afterEntry activate new now rows) := by
  obtain ⟨hmem, hrecord⟩ := mem_contractsOf.mp (mem_upserted new rows)
  unfold afterEntry
  split_ifs with hact
  · exact (advances_upserted hgroup).trans
      (advances_activated hkeys hmem (hrecord.symm ▸ hgroup) now)
  · exact advances_upserted hgroup

theorem keys_afterEntry (activate : Bool) :
    (afterEntry activate new now rows).map Row.key = (upserted new rows).2.map Row.key := by
  unfold afterEntry
  split_ifs with hact
  · exact keys_activated
  · rfl

/-- An iteration leaves the contracts of the other groups alone. -/
theorem contractsOf_afterEntry (now : String) (hkeys : ((upserted new rows).2.map Row.key).Nodup)
    {group : String × String × String} (hgroup : group ≠ new.group) (activate : Bool) :
    contractsOf group (afterEntry activate new now rows) = contractsOf group rows := by
  have hreg : contractsOf group (upserted new rows).2 = contractsOf group rows := by
    rcases upserted_cases new rows with ⟨-, hreg⟩ | ⟨-, hrows⟩
    · rw [hreg, contractsOf_append, if_neg hgroup.symm, List.append_nil]
    · rw [hrows]
  obtain ⟨hmem, hrecord⟩ := mem_contractsOf.mp (mem_upserted new rows)
  unfold afterEntry
  split_ifs with hact
  · rw [contractsOf_activated_of_ne hkeys hmem (hrecord.symm ▸ hgroup), hreg]
  · exact hreg

/-- The group has one active contract, and it is the one the upsert finds for the digest. -/
def Imported (group : String × String × String) (digest : String) (rows : List Row) : Prop :=
  ∃ c, (withDigest group digest rows).head? = some c ∧ activeOf group rows = [c]

/-- **An iteration imports its entry.** -/
theorem imported_afterEntry (hkeys : ((upserted new rows).2.map Row.key).Nodup)
    (hdraft : new.status = .draft) (hone : (activeOf new.group rows).length ≤ 1) :
    Imported new.group new.contentDigest (afterEntry true new now rows) := by
  have hhead := head?_upserted new rows
  have hmem := mem_upserted new rows
  unfold afterEntry
  by_cases hstatus : (upserted new rows).1.status = .active
  · rw [if_neg (fun h => h.2 hstatus)]
    refine ⟨_, hhead, ?_⟩
    -- it is not the new draft, so it was there and active before
    rcases upserted_cases new rows with ⟨-, hreg⟩ | ⟨-, hrows⟩
    · rw [hreg, hdraft] at hstatus
      cases hstatus
    · rw [hrows] at hmem ⊢
      have hactive : (upserted new rows).1 ∈ activeOf new.group rows :=
        List.mem_filter.mpr ⟨hmem, decide_eq_true hstatus⟩
      obtain ⟨c, hc⟩ : ∃ c, activeOf new.group rows = [c] :=
        List.length_eq_one_iff.mp (le_antisymm hone (List.length_pos_of_mem hactive))
      rw [hc, List.mem_singleton] at hactive
      rw [hc, hactive]
  · rw [if_pos ⟨rfl, hstatus⟩]
    refine ⟨_, ?_, activeOf_activated hkeys hmem⟩
    rw [withDigest_activated, List.head?_map, hhead]
    rfl

/-- What is imported has nothing to write. -/
theorem afterEntry_of_imported (now : String) (h : Imported new.group new.contentDigest rows)
    (activate : Bool) :
    upserted new rows = ((upserted new rows).1, rows) ∧
      (upserted new rows).1.status = .active ∧ afterEntry activate new now rows = rows := by
  obtain ⟨c, hhead, hactive⟩ := h
  rcases upserted_cases new rows with ⟨hnone, -⟩ | ⟨hfirst, hrows⟩
  · rw [hnone] at hhead
    cases hhead
  · rw [hhead, Option.some.injEq] at hfirst
    have hc : c ∈ activeOf new.group rows := by
      rw [hactive]
      exact List.mem_singleton_self c
    have hstatus : (upserted new rows).1.status = .active := by
      rw [← hfirst]
      exact of_decide_eq_true (List.mem_filter.mp hc).2
    refine ⟨Prod.ext rfl hrows, hstatus, ?_⟩
    rw [afterEntry, if_neg (fun hact => hact.2 hstatus), hrows]

end Entry

/-! ## The calls of an iteration -/

section Calls

variable {rows : List Row}

/-- An update of contracts. -/
theorem apply_eq_map {change : Change Row} {f : CapabilityContractRow → CapabilityContractRow}
    (hcontract : ∀ c, (if change.guard (.capability c) then change.set (.capability c)
      else some (.capability c)) = some (.capability (f c)))
    (hother : ∀ row, row.capability? = none → change.guard row = false) :
    change.apply rows = rows.map (onContracts f) := by
  unfold Change.apply
  rw [← List.filterMap_eq_map]
  refine List.filterMap_congr (fun row _ => ?_)
  cases row with
  | capability c => exact hcontract c
  | _ =>
    rw [hother _ rfl]
    rfl

/-- The two updates of an activation. -/
theorem apply_activation (record : CapabilityContractRow) (now : String) :
    (setStatus record.contractId .active now).apply ((supersede record now).apply rows)
      = rows.map (onContracts (activated record now)) := by
  have hretire : (supersede record now).apply rows = rows.map (onContracts (fun c =>
      if c.group = record.group ∧ c.status = .active ∧ c.contractId ≠ record.contractId then
        { c with status := .retired, updatedAt := now } else c)) := by
    refine apply_eq_map (fun c => ?_) (fun row hrow => ?_)
    · simp only [supersede, CapabilityContractRow.group, Prod.mk.injEq, decide_eq_true_eq,
        and_assoc]
      split_ifs <;> rfl
    · cases row <;> first | rfl | cases hrow
  have hpromote : ∀ rows : List Row, (setStatus record.contractId .active now).apply rows
      = rows.map (onContracts (fun c => if c.contractId = record.contractId then
        { c with status := .active, updatedAt := now, activatedAt := some now } else c)) := by
    intro rows
    refine apply_eq_map (fun c => ?_) (fun row hrow => ?_)
    · simp only [setStatus, decide_eq_true_eq, if_true]
      split_ifs <;> rfl
    · cases row <;> first | rfl | cases hrow
  -- the record is not retired, and the others are not promoted
  rw [hretire, hpromote, List.map_map]
  refine List.map_congr_left (fun row _ => ?_)
  cases row with
  | capability c =>
    refine congrArg Row.capability ?_
    show (fun c : CapabilityContractRow => if c.contractId = record.contractId then
      { c with status := .active, updatedAt := now, activatedAt := some now } else c) _ = _
    unfold activated
    by_cases hid : c.contractId = record.contractId
    · simp [hid]
    · by_cases hstatus : c.group = record.group ∧ c.status = .active
      · simp [hid, hstatus]
      · have hstatus' : ¬ (c.group = record.group ∧ c.status = .active ∧
            c.contractId ≠ record.contractId) := fun h => hstatus ⟨h.1, h.2.1⟩
        simp only [if_neg hstatus', if_neg hstatus, if_neg hid]
  | _ => rfl

/-- The rows that an upsert leaves. -/
def Upserts (new : CapabilityContractRow) (rows rows' : List Row) : Prop :=
  ((upserted new rows).2.map Row.key).Nodup ∧ rows' = (upserted new rows).2

/-- The session that inserts a contract. -/
theorem settles_insertContract (hkeys : (rows.map Row.key).Nodup) (new : CapabilityContractRow) :
    (session do
      insert (.capability new)
      let rows ← fetchAll
      commit
      match (capabilities rows).find? (fun r => r.contractId = new.contractId) with
      | some r => return r
      | none => throw (.runtimeError "assertion failed") :
        StoreM CapabilityContractRow).Settles schema (fun rows' => rows' = rows)
      (fun record rows' => record = new ∧
        ((rows ++ [Row.capability new]).map Row.key).Nodup ∧ rows' = rows ++ [.capability new])
      (fun rows' => rows' = rows ∨
        ((rows ++ [Row.capability new]).map Row.key).Nodup ∧ rows' = rows ++ [.capability new]) := by
  refine settles_session ?_ (fun _ rows' h => Or.inr h.2)
  refine Prog.meets_bind (meets_insert _ (fun _ _ h => Or.inl h.2)) (fun _ => ?_)
  refine Prog.Meets.mono (P := fun c r => schema.admits rows (.capability new) = true ∧
    c = rows ∧ r = rows ++ [.capability new]) ?_ ?_ (fun _ _ _ h => h) (fun _ _ h => h)
  swap
  · rintro c r ⟨r₀, ⟨rfl, rfl⟩, hadmits, rfl⟩
    exact ⟨hadmits, rfl, rfl⟩
  refine Prog.meets_of_fact (fun hadmits => ?_)
  -- the insertion was admitted, so the keys stay distinct
  have hfree := (admits_iff.mp hadmits).1
  have hnodup : ((rows ++ [Row.capability new]).map Row.key).Nodup := by
    have hconcat := hkeys.concat hfree
    rw [List.concat_eq_append] at hconcat
    rw [List.map_append]
    exact hconcat
  refine Prog.meets_bind (meets_fetchAll (fun _ _ h => Or.inl h.1)) (fun fetched => ?_)
  refine Prog.meets_bind (meets_commit (fun _ _ h => Or.inl h.2.1)) (fun _ => ?_)
  cases hfind : (capabilities fetched).find? (fun r => r.contractId = new.contractId) with
  | none =>
    refine Prog.meets_done (fun _ _ _ h => nomatch h) ?_
    rintro e c r - ⟨rfl, c₀, -, -, hr⟩
    exact Or.inr ⟨hnodup, hr⟩
  | some record =>
    refine Prog.meets_done ?_ (fun _ _ _ h => nomatch h)
    rintro record' c r hrecord ⟨rfl, c₀, rfl, -, hr⟩
    cases hrecord
    have hid : record.contractId = new.contractId := by
      have hsome := List.find?_some hfind
      exact of_decide_eq_true hsome
    have hsame : record = new := by
      rw [hr] at hfind
      refine eq_of_contractId hnodup (List.mem_of_find?_eq_some hfind) ?_ hid
      rw [capabilities_append]
      exact List.mem_append_right _ List.mem_cons_self
    exact ⟨⟨hsame, hnodup, hr⟩, Or.inr ⟨hnodup, hr⟩⟩

theorem settles_upsert (hkeys : (rows.map Row.key).Nodup) (new : CapabilityContractRow) :
    (upsertCapabilityContract new).Settles schema (fun rows' => rows' = rows)
      (fun record rows' => record = (upserted new rows).1 ∧ Upserts new rows rows')
      (fun rows' => rows' = rows ∨ Upserts new rows rows') := by
  refine Prog.settles_bind (R := fun fetched rows' => fetched = rows ∧ rows' = rows)
    (Prog.Settles.mono settles_session_fetchAll (fun _ h => h) ?_ (fun _ h => Or.inl h))
    (fun fetched => Prog.settles_of_fact ?_)
  · -- the query has returned the rows as they are
    rintro fetched rows' ⟨rfl, rfl⟩
    exact ⟨rfl, rfl⟩
  rintro rfl
  cases hfind : findContractByDigest fetched new.kind new.name new.tenantId new.contentDigest with
  | some existing =>
    have hreg : upserted new fetched = (existing, fetched) := by
      rw [upserted, hfind]
    refine Prog.settles_ok ?_
    rintro rows' rfl
    rw [Upserts, hreg]
    exact ⟨rfl, hkeys, rfl⟩
  | none =>
    have hreg : upserted new fetched = (new, fetched ++ [.capability new]) := by
      rw [upserted, hfind]
    unfold Upserts
    rw [hreg]
    exact settles_insertContract hkeys new

theorem settles_activate (hkeys : (rows.map Row.key).Nodup) {record : CapabilityContractRow}
    (hrecord : record ∈ capabilities rows) (now : Instant) :
    (setCapabilityContractStatus record.contractId .active now).Settles schema
      (fun rows' => rows' = rows)
      (fun _ rows' =>
        rows' = rows.map (onContracts (activated record (Timestamp.isoformat now))))
      (fun rows' => rows' = rows ∨
        rows' = rows.map (onContracts (activated record (Timestamp.isoformat now)))) := by
  refine settles_session ?_ (fun _ _ h => Or.inr h)
  refine Prog.meets_bind (meets_fetchAll (fun _ _ h => Or.inl h.2)) (fun fetched => ?_)
  refine Prog.Meets.mono (P := fun c r => fetched = rows ∧ c = rows ∧ r = rows) ?_ ?_
    (fun _ _ _ h => h) (fun _ _ h => h)
  swap
  · rintro c r ⟨rfl, rfl, rfl⟩
    exact ⟨rfl, rfl, rfl⟩
  refine Prog.meets_of_fact ?_
  rintro rfl
  cases hfind : (capabilities fetched).find? (fun r => r.contractId = record.contractId) with
  | none =>
    refine absurd (List.find?_eq_none.mp hfind record hrecord) ?_
    exact fun h => h (decide_eq_true rfl)
  | some found =>
    have hid : found.contractId = record.contractId := by
      have hsome := List.find?_some hfind
      exact of_decide_eq_true hsome
    obtain rfl := eq_of_contractId hkeys (List.mem_of_find?_eq_some hfind) hrecord hid
    show Prog.Meets _ _ _ _ (do
      let _ ← execute (supersede found (Timestamp.isoformat now))
      let _ ← execute (setStatus found.contractId .active (Timestamp.isoformat now))
      let rows ← fetchAll
      commit
      match (capabilities rows).find? (fun r => r.contractId = found.contractId) with
      | some r => return r
      | none => throw (.runtimeError "assertion failed") : StoreM CapabilityContractRow)
    refine Prog.meets_bind (meets_execute _ (fun _ _ h => Or.inl h.1)) (fun _ => ?_)
    refine Prog.meets_bind (meets_execute _ ?_) (fun _ => ?_)
    · rintro c r ⟨r₀, ⟨hc, -⟩, -⟩
      exact Or.inl hc
    refine Prog.Meets.mono (P := fun c r => c = fetched ∧
      r = fetched.map (onContracts (activated found (Timestamp.isoformat now)))) ?_ ?_
      (fun _ _ _ h => h) (fun _ _ h => h)
    swap
    · rintro c r ⟨r₁, ⟨r₀, ⟨rfl, rfl⟩, -, rfl⟩, -, rfl⟩
      exact ⟨rfl, apply_activation found _⟩
    refine Prog.meets_bind (meets_fetchAll (fun _ _ h => Or.inl h.1)) (fun last => ?_)
    refine Prog.meets_bind (meets_commit (fun _ _ h => Or.inl h.2.1)) (fun _ => ?_)
    -- behind the commit nothing is written any more, whatever is read back
    cases (capabilities last).find? (fun r => r.contractId = found.contractId) with
    | none =>
      refine Prog.meets_done (fun _ _ _ h => nomatch h) ?_
      rintro e c r - ⟨rfl, c₀, -, -, hr⟩
      exact Or.inr hr
    | some r' =>
      refine Prog.meets_done ?_ (fun _ _ _ h => nomatch h)
      rintro a c r - ⟨rfl, c₀, -, -, hr⟩
      exact ⟨hr, Or.inr hr⟩

variable {groups : List (String × String × String)} {tenantId : String} {draw : SyncDraw}
  {entry : RegistryEntry}

/-- The rows after an iteration, from its entry and its draws. -/
def synced (tenantId : String) (activate : Bool) (draw : SyncDraw) (entry : RegistryEntry)
    (rows : List Row) : List Row :=
  afterEntry activate (draftOf py sha256 tenantId draw entry)
    (Timestamp.isoformat draw.activateAt) rows

/-- **What an iteration does.**  When it raises, it has done nothing, only upserted the entry,
or all. -/
theorem settles_syncEntry (hkeys : (rows.map Row.key).Nodup) (activate : Bool) :
    (syncEntry py sha256 tenantId activate draw entry).Settles schema (fun rows' => rows' = rows)
      (fun _ rows' =>
        ((upserted (draftOf py sha256 tenantId draw entry) rows).2.map Row.key).Nodup ∧
          rows' = synced py sha256 tenantId activate draw entry rows)
      (fun rows' => rows' = rows ∨
        ((upserted (draftOf py sha256 tenantId draw entry) rows).2.map Row.key).Nodup ∧
          (rows' = synced py sha256 tenantId false draw entry rows ∨
            rows' = synced py sha256 tenantId activate draw entry rows)) := by
  have hfalse : synced py sha256 tenantId false draw entry rows
      = (upserted (draftOf py sha256 tenantId draw entry) rows).2 := by
    rw [synced, afterEntry, if_neg (fun h => Bool.false_ne_true h.1)]
  rw [hfalse]
  refine Prog.settles_bind (Prog.Settles.mono (settles_upsert hkeys _) (fun _ h => h)
    (fun _ _ h => h) ?_) (fun record => Prog.settles_of_fact ?_)
  · -- cut short in the registration
    rintro rows' (hrows | ⟨hnodup, hrows⟩)
    · exact Or.inl hrows
    · exact Or.inr ⟨hnodup, Or.inl hrows⟩
  intro hrecord
  refine Prog.settles_of_fact (fun hnodup => ?_)
  by_cases hact : activate = true ∧ record.status ≠ .active
  · rw [if_pos hact]
    have hsynced : synced py sha256 tenantId activate draw entry rows
        = (upserted (draftOf py sha256 tenantId draw entry) rows).2.map
          (onContracts (activated record (Timestamp.isoformat draw.activateAt))) := by
      rw [synced, afterEntry, ← hrecord, if_pos hact]
    rw [hsynced]
    have hmem := (mem_contractsOf.mp (mem_upserted
      (draftOf py sha256 tenantId draw entry) rows)).1
    rw [← hrecord] at hmem
    refine Prog.Settles.mono (settles_activate hnodup hmem _) (fun _ h => h)
      (fun _ _ h => ⟨hnodup, h⟩) ?_
    exact fun rows' h => Or.inr ⟨hnodup, h⟩
  · rw [if_neg hact]
    have hsynced : synced py sha256 tenantId activate draw entry rows
        = (upserted (draftOf py sha256 tenantId draw entry) rows).2 := by
      rw [synced, afterEntry, ← hrecord, if_neg hact]
    rw [hsynced]
    exact Prog.settles_ok (fun rows' h => ⟨hnodup, h⟩)

end Calls

/-! ## The loops -/

section Loops

variable {groups : List (String × String × String)} {tenantId : String} {draws : ℕ → SyncDraw}
  {rows₀ : List Row}

/-- The store while an import runs. -/
structure Progress (groups : List (String × String × String)) (rows₀ rows : List Row) : Prop where
  keys : (rows.map Row.key).Nodup
  advances : Advances groups rows₀ rows

/-- Between two iterations of an import that activates. -/
structure Importing (groups : List (String × String × String)) (tenantId : String)
    (rows₀ : List Row) (imported : List RegistryEntry) (rows : List Row) : Prop
    extends Progress groups rows₀ rows where
  oneActive : ∀ group, (activeOf group rows).length ≤ 1
  imported : ∀ entry ∈ imported, Imported (entry.group tenantId) (entry.digest py sha256) rows

theorem Progress.synced {rows : List Row} (h : Progress groups rows₀ rows) {draw : SyncDraw}
    {entry : RegistryEntry} (hgroup : entry.group tenantId ∈ groups)
    (hnodup : ((upserted (draftOf py sha256 tenantId draw entry) rows).2.map Row.key).Nodup)
    (activate : Bool) :
    Progress groups rows₀ (synced py sha256 tenantId activate draw entry rows) where
  keys := by
    unfold ControlPlane.synced
    rw [keys_afterEntry]
    exact hnodup
  advances := h.advances.trans (advances_afterEntry hnodup hgroup activate)

/-- **The step of the loop.** -/
theorem Importing.synced {rows : List Row} {imported : List RegistryEntry}
    (h : Importing py sha256 groups tenantId rows₀ imported rows) {draw : SyncDraw}
    {entry : RegistryEntry} (hgroup : entry.group tenantId ∈ groups)
    (hnew : ∀ other ∈ imported, other.group tenantId ≠ entry.group tenantId)
    (hnodup : ((upserted (draftOf py sha256 tenantId draw entry) rows).2.map Row.key).Nodup) :
    Importing py sha256 groups tenantId rows₀ (imported ++ [entry])
      (synced py sha256 tenantId true draw entry rows) where
  toProgress := h.toProgress.synced py sha256 hgroup hnodup true
  oneActive group := by
    by_cases hsame : group = entry.group tenantId
    · rw [hsame]
      obtain ⟨c, -, hactive⟩ := imported_afterEntry hnodup rfl (h.oneActive (entry.group tenantId))
      exact (congrArg List.length hactive).le
    · have hframe := contractsOf_afterEntry (Timestamp.isoformat draw.activateAt) hnodup
        hsame true
      unfold activeOf ControlPlane.synced
      rw [hframe]
      exact h.oneActive group
  imported other hother := by
    rcases List.mem_append.mp hother with hmem | hmem
    · have hframe := contractsOf_afterEntry (Timestamp.isoformat draw.activateAt) hnodup
        (hnew other hmem) true
      obtain ⟨c, hhead, hactive⟩ := h.imported other hmem
      refine ⟨c, ?_, ?_⟩
      · unfold withDigest ControlPlane.synced
        rw [hframe]
        exact hhead
      · unfold activeOf ControlPlane.synced
        rw [hframe]
        exact hactive
    · rw [List.mem_singleton.mp hmem]
      exact imported_afterEntry hnodup rfl (h.oneActive (entry.group tenantId))

theorem settles_syncEntries (groups : List (String × String × String)) (tenantId : String)
    (draws : ℕ → SyncDraw) (rows₀ : List Row) (entries : List RegistryEntry) (n : ℕ)
    (imported : List RegistryEntry)
    (hgroups : ∀ entry ∈ entries, entry.group tenantId ∈ groups)
    (hnodup : ((imported ++ entries).map (RegistryEntry.group tenantId)).Nodup) :
    (syncEntries py sha256 tenantId true draws n entries).Settles schema
      (Importing py sha256 groups tenantId rows₀ imported)
      (fun _ => Importing py sha256 groups tenantId rows₀ (imported ++ entries))
      (Progress groups rows₀) := by
  induction entries generalizing n imported with
  | nil =>
    rw [List.append_nil]
    exact Prog.settles_ok (fun _ h => h)
  | cons entry entries ih =>
    have hgroup := hgroups entry List.mem_cons_self
    -- the entries imported so far are of other groups
    have hnew : ∀ other ∈ imported, other.group tenantId ≠ entry.group tenantId := by
      intro other hother heq
      rw [List.map_append, List.nodup_append] at hnodup
      exact hnodup.2.2 _ (List.mem_map_of_mem hother) _ (List.mem_map_of_mem List.mem_cons_self)
        heq
    have hassoc : imported ++ entry :: entries = (imported ++ [entry]) ++ entries := by
      rw [List.append_assoc, List.singleton_append]
    refine Prog.settles_bind (R := fun _ =>
      Importing py sha256 groups tenantId rows₀ (imported ++ [entry]))
      (Prog.settles_of_rows (fun rows h => ?_)) (fun record => ?_)
    · refine Prog.Settles.mono (settles_syncEntry py sha256 h.keys true) (fun _ h => h) ?_ ?_
      · rintro _ rows' ⟨hkeys, rfl⟩
        exact h.synced py sha256 hgroup hnew hkeys
      · rintro rows' (rfl | ⟨hkeys, rfl | rfl⟩)
        · exact h.toProgress
        · exact h.toProgress.synced py sha256 hgroup hkeys false
        · exact h.toProgress.synced py sha256 hgroup hkeys true
    · rw [hassoc]
      refine Prog.settles_bind (ih (n + 1) (imported ++ [entry])
        (fun e he => hgroups e (List.mem_cons_of_mem _ he)) (hassoc ▸ hnodup)) (fun synced => ?_)
      exact Prog.settles_ok (fun _ h => h)

/-- An import of what is imported writes nothing. -/
theorem settles_syncEntries_again {rows : List Row} (hkeys : (rows.map Row.key).Nodup)
    (entries : List RegistryEntry) (n : ℕ)
    (himported : ∀ entry ∈ entries,
      Imported (entry.group tenantId) (entry.digest py sha256) rows) :
    (syncEntries py sha256 tenantId true draws n entries).Settles schema (fun rows' => rows' = rows)
      (fun _ rows' => rows' = rows) (fun rows' => rows' = rows) := by
  induction entries generalizing n with
  | nil => exact Prog.settles_ok (fun _ h => h)
  | cons entry entries ih =>
    -- the registration finds the contract, which is active
    have hsame : ∀ activate, synced py sha256 tenantId activate (draws n) entry rows = rows :=
      fun activate => (@afterEntry_of_imported _ (draftOf py sha256 tenantId (draws n) entry)
        (Timestamp.isoformat (draws n).activateAt) (himported entry List.mem_cons_self)
        activate).2.2
    refine Prog.settles_bind (R := fun _ rows' => rows' = rows)
      (Prog.Settles.mono (settles_syncEntry py sha256 hkeys true) (fun _ h => h) ?_ ?_)
      (fun record => ?_)
    · rintro _ rows' ⟨-, rfl⟩
      exact hsame true
    · rintro rows' (rfl | ⟨-, rfl | rfl⟩)
      · rfl
      · exact hsame false
      · exact hsame true
    · exact Prog.settles_bind (ih (n + 1) (fun e he => himported e (List.mem_cons_of_mem _ he)))
        (fun _ => Prog.settles_ok (fun _ h => h))

/-- The rows of an import that does not activate: some drafts more. -/
def Drafted (rows₀ rows : List Row) : Prop :=
  ∃ drafts : List CapabilityContractRow, (∀ c ∈ drafts, c.status = .draft) ∧
    rows = rows₀ ++ drafts.map .capability

theorem drafted_synced (tenantId : String) {rows : List Row} (h : Drafted rows₀ rows)
    (draw : SyncDraw)
    (entry : RegistryEntry) :
    Drafted rows₀ (synced py sha256 tenantId false draw entry rows) := by
  have hfalse : synced py sha256 tenantId false draw entry rows
      = (upserted (draftOf py sha256 tenantId draw entry) rows).2 := by
    rw [synced, afterEntry, if_neg (fun h => Bool.false_ne_true h.1)]
  rw [hfalse]
  obtain ⟨drafts, hdrafts, rfl⟩ := h
  rcases upserted_cases (draftOf py sha256 tenantId draw entry)
    (rows₀ ++ drafts.map Row.capability) with ⟨-, hreg⟩ | ⟨-, hrows⟩
  · rw [hreg]
    refine ⟨drafts ++ [draftOf py sha256 tenantId draw entry], ?_, ?_⟩
    · intro c hc
      rcases List.mem_append.mp hc with hc | hc
      · exact hdrafts c hc
      · rw [List.mem_singleton.mp hc]
        rfl
    · rw [List.map_append, ← List.append_assoc]
      rfl
  · rw [hrows]
    exact ⟨drafts, hdrafts, rfl⟩

theorem settles_syncEntries_drafts (entries : List RegistryEntry) (n : ℕ)
    (hgroups : ∀ entry ∈ entries, entry.group tenantId ∈ groups) :
    (syncEntries py sha256 tenantId false draws n entries).Settles schema
      (fun rows => Progress groups rows₀ rows ∧ Drafted rows₀ rows)
      (fun _ rows => Progress groups rows₀ rows ∧ Drafted rows₀ rows)
      (fun rows => Progress groups rows₀ rows ∧ Drafted rows₀ rows) := by
  induction entries generalizing n with
  | nil => exact Prog.settles_ok (fun _ h => h)
  | cons entry entries ih =>
    have hgroup := hgroups entry List.mem_cons_self
    refine Prog.settles_bind (R := fun _ rows => Progress groups rows₀ rows ∧ Drafted rows₀ rows)
      (Prog.settles_of_rows (fun rows h => ?_)) (fun record => ?_)
    · have hdrafted := drafted_synced py sha256 tenantId h.2 (draws n) entry
      refine Prog.Settles.mono (settles_syncEntry py sha256 h.1.keys false) (fun _ h => h) ?_ ?_
      · rintro _ rows' ⟨hnodup, rfl⟩
        exact ⟨h.1.synced py sha256 hgroup hnodup false, hdrafted⟩
      · rintro rows' (rfl | ⟨hnodup, rfl | rfl⟩)
        · exact h
        · exact ⟨h.1.synced py sha256 hgroup hnodup false, hdrafted⟩
        · exact ⟨h.1.synced py sha256 hgroup hnodup false, hdrafted⟩
    · exact Prog.settles_bind (ih (n + 1) (fun e he => hgroups e (List.mem_cons_of_mem _ he)))
        (fun _ => Prog.settles_ok (fun _ h => h))

end Loops

/-! ## An import in which nothing fails -/

section Returns

variable {α : Type} {rows rows' : List Row} {a : α}

/-- A session whose body runs through when nothing fails. -/
theorem returns_session {body : StoreM α} (h : ∀ t, ∃ t' c,
    body.run schema (fun _ => none) ⟨rows, rows, t⟩ = (.ok a, ⟨c, rows', t'⟩)) :
    (session body).Returns schema rows a rows' := by
  intro t
  obtain ⟨t', c, hrun⟩ := h t
  refine ⟨t' + 2, ?_⟩
  have hatomic : (Prog.atomically body).run schema (fun _ => none) ⟨rows, rows, t⟩
      = (.ok a, ⟨rows', rows', t' + 1⟩) := by
    unfold Prog.atomically
    rw [Prog.run_handle, Prog.run_bind_ok hrun]
    rfl
  exact Prog.run_bind_ok hatomic

theorem returns_fetch : (session fetchAll).Returns schema rows rows rows :=
  returns_session (fun t => ⟨t + 1, rows, rfl⟩)

variable {new : CapabilityContractRow}

/-- A contract is found by its id. -/
theorem find?_contract (hkeys : (rows.map Row.key).Nodup) {c : CapabilityContractRow}
    (hc : c ∈ capabilities rows) :
    (capabilities rows).find? (fun r => r.contractId = c.contractId) = some c := by
  cases hfind : (capabilities rows).find? (fun r => r.contractId = c.contractId) with
  | none => exact absurd (decide_eq_true rfl) (List.find?_eq_none.mp hfind c hc)
  | some r =>
    have hsome := List.find?_some hfind
    have hid : r.contractId = c.contractId := of_decide_eq_true hsome
    rw [eq_of_contractId hkeys (List.mem_of_find?_eq_some hfind) hc hid]

theorem returns_upsert (hkeys : ((upserted new rows).2.map Row.key).Nodup) :
    (upsertCapabilityContract new).Returns schema rows (upserted new rows).1
      (upserted new rows).2 := by
  refine Prog.returns_bind returns_fetch ?_
  rw [upserted] at hkeys ⊢
  cases hfind : findContractByDigest rows new.kind new.name new.tenantId new.contentDigest with
  | some existing => exact Prog.returns_done
  | none =>
    rw [hfind] at hkeys
    have hadmits : schema.admits rows (.capability new) = true := by
      rw [admits_iff]
      refine ⟨?_, rfl⟩
      have hkeys' : ((rows ++ [Row.capability new]).map Row.key).Nodup := hkeys
      rw [List.map_append, List.nodup_append] at hkeys'
      exact fun hmem => hkeys'.2.2 _ hmem _ (List.mem_singleton_self _) rfl
    -- the contract is read back by its id
    have hread : (capabilities (rows ++ [.capability new])).find?
        (fun r => r.contractId = new.contractId) = some new := by
      refine find?_contract hkeys ?_
      rw [capabilities_append]
      exact List.mem_append_right _ List.mem_cons_self
    refine returns_session (fun t => ⟨t + 3, rows ++ [.capability new], ?_⟩)
    have hinsert : (insert (.capability new)).run schema (fun _ => none) ⟨rows, rows, t⟩
        = (.ok (), ⟨rows, rows ++ [.capability new], t + 1⟩) := by
      unfold insert
      rw [Prog.run_bind, Prog.run_call]
      unfold Stmt.serve
      dsimp only
      rw [if_pos hadmits]
      rfl
    rw [Prog.run_bind_ok hinsert]
    show (Prog.run schema _ (match (capabilities (rows ++ [.capability new])).find?
        (fun r => r.contractId = new.contractId) with
      | some r => return r
      | none => throw (.runtimeError "assertion failed") : StoreM CapabilityContractRow) _) = _
    rw [hread]
    rfl

theorem returns_activate (hkeys : (rows.map Row.key).Nodup) {record : CapabilityContractRow}
    (hrecord : record ∈ capabilities rows) (now : Instant) :
    ∃ a, (setCapabilityContractStatus record.contractId .active now).Returns schema rows a
      (rows.map (onContracts (activated record (Timestamp.isoformat now)))) := by
  let stamp := Timestamp.isoformat now
  let rows' := rows.map (onContracts (activated record stamp))
  have hkeys' : (rows'.map Row.key).Nodup := by
    show ((rows.map (onContracts (activated record stamp))).map Row.key).Nodup
    rw [keys_activated]
    exact hkeys
  have hmem : activated record stamp record ∈ capabilities rows' := by
    show _ ∈ capabilities (rows.map (onContracts (activated record stamp)))
    rw [capabilities_map]
    exact List.mem_map_of_mem hrecord
  have hid : (activated record stamp record).contractId = record.contractId :=
    (activated_sameContent record).contractId
  have hfind := find?_contract hkeys' hmem
  rw [hid] at hfind
  refine ⟨activated record stamp record, returns_session (fun t => ⟨t + 5,
    (setStatus record.contractId .active stamp).apply ((supersede record stamp).apply rows), ?_⟩)⟩
  -- the record is found, and found again after both updates
  have hfetch : fetchAll.run schema (fun _ => none) ⟨rows, rows, t⟩
      = (.ok rows, ⟨rows, rows, t + 1⟩) := rfl
  rw [Prog.run_bind_ok hfetch, find?_contract hkeys hrecord]
  show (Prog.run schema _ (match (capabilities ((setStatus record.contractId .active stamp).apply
      ((supersede record stamp).apply rows))).find?
        (fun r => r.contractId = record.contractId) with
    | some r => return r
    | none => throw (.runtimeError "assertion failed") : StoreM CapabilityContractRow)
    ⟨_, (setStatus record.contractId .active stamp).apply ((supersede record stamp).apply rows), _⟩)
      = _
  rw [apply_activation, hfind]
  refine Prod.ext rfl ?_
  dsimp only [Prog.pure_eq, Prog.run_done]
  congr 1
  exact apply_activation record stamp

variable (tenantId : String) (activate : Bool) {draw : SyncDraw} (entry : RegistryEntry)

/-- A registration under a fresh id keeps the keys apart. -/
theorem nodup_upserted (hkeys : (rows.map Row.key).Nodup)
    (hfresh : RowKey.capability draw.contractId ∉ rows.map Row.key) :
    ((upserted (draftOf py sha256 tenantId draw entry) rows).2.map Row.key).Nodup := by
  rcases upserted_cases (draftOf py sha256 tenantId draw entry) rows with ⟨-, hreg⟩ | ⟨-, hrows⟩
  · rw [hreg, List.map_append]
    exact hkeys.append (List.nodup_singleton _) (List.disjoint_singleton.mpr hfresh)
  · rw [hrows]
    exact hkeys

/-- **An iteration returns** when nothing fails and its id is not taken. -/
theorem returns_syncEntry (hkeys : (rows.map Row.key).Nodup)
    (hfresh : RowKey.capability draw.contractId ∉ rows.map Row.key) :
    ∃ record, (syncEntry py sha256 tenantId activate draw entry).Returns schema rows record
      (synced py sha256 tenantId activate draw entry rows) := by
  have hkeys' := nodup_upserted py sha256 tenantId entry hkeys hfresh
  have hupsert := returns_upsert hkeys'
  unfold syncEntry synced afterEntry
  split_ifs with hact
  · have hmem := (mem_contractsOf.mp (mem_upserted
      (draftOf py sha256 tenantId draw entry) rows)).1
    obtain ⟨a, ha⟩ := returns_activate hkeys' hmem draw.activateAt
    refine ⟨a, Prog.returns_bind hupsert ?_⟩
    rw [if_pos hact]
    exact ha
  · refine ⟨(upserted (draftOf py sha256 tenantId draw entry) rows).1,
      Prog.returns_bind hupsert ?_⟩
    rw [if_neg hact]
    exact Prog.returns_done

/-- The ids that the iterations from the `n`-th on draw are not taken. -/
structure FreshDraws (draws : ℕ → SyncDraw) (n : ℕ) (rows : List Row) : Prop where
  distinct : Function.Injective (fun i => (draws i).contractId)
  unused : ∀ i, n ≤ i → RowKey.capability (draws i).contractId ∉ rows.map Row.key

theorem keys_synced (rows : List Row) (draw : SyncDraw) :
    (synced py sha256 tenantId activate draw entry rows).map Row.key = rows.map Row.key ∨
      (synced py sha256 tenantId activate draw entry rows).map Row.key
        = rows.map Row.key ++ [.capability draw.contractId] := by
  unfold synced
  rw [keys_afterEntry]
  rcases upserted_cases (draftOf py sha256 tenantId draw entry) rows with ⟨-, hreg⟩ | ⟨-, hrows⟩
  · rw [hreg, List.map_append]
    exact Or.inr rfl
  · rw [hrows]
    exact Or.inl rfl

variable {draws : ℕ → SyncDraw} {n : ℕ}

theorem FreshDraws.next (h : FreshDraws draws n rows) :
    FreshDraws draws (n + 1) (synced py sha256 tenantId activate (draws n) entry rows) := by
  refine ⟨h.distinct, fun i hi => ?_⟩
  rcases keys_synced py sha256 tenantId activate entry rows (draws n) with hkeys | hkeys
  · rw [hkeys]
    exact h.unused i (by omega)
  · rw [hkeys, List.mem_append, List.mem_singleton]
    rintro (hold | hnew)
    · exact h.unused i (by omega) hold
    · have := h.distinct (RowKey.capability.inj hnew)
      omega

/-- **A loop returns** when nothing fails and the ids are fresh. -/
theorem returns_syncEntries (hkeys : (rows.map Row.key).Nodup) (hfresh : FreshDraws draws n rows)
    (entries : List RegistryEntry) :
    ∃ records rows', (syncEntries py sha256 tenantId activate draws n entries).Returns schema rows
      records rows' ∧ (rows'.map Row.key).Nodup ∧ FreshDraws draws (n + entries.length) rows' := by
  induction entries generalizing n rows with
  | nil => exact ⟨[], rows, Prog.returns_done, hkeys, hfresh⟩
  | cons entry entries ih =>
    obtain ⟨record, hentry⟩ := returns_syncEntry py sha256 tenantId activate entry hkeys
      (hfresh.unused n le_rfl)
    have hkeys' : ((synced py sha256 tenantId activate (draws n) entry rows).map
        Row.key).Nodup := by
      unfold synced
      rw [keys_afterEntry]
      exact nodup_upserted py sha256 tenantId entry hkeys (hfresh.unused n le_rfl)
    obtain ⟨records, rows', hrest, hkeys'', hfresh'⟩ := ih hkeys'
      (hfresh.next py sha256 tenantId activate entry)
    refine ⟨record :: records, rows', ?_, hkeys'', ?_⟩
    · exact Prog.returns_bind hentry (Prog.returns_bind hrest Prog.returns_done)
    · rw [List.length_cons, show n + (entries.length + 1) = n + 1 + entries.length by omega]
      exact hfresh'

end Returns

/-! ## Whole imports -/

section Imports

variable {tenantId : String} {agents : List AgentRegistryEntry} {tools : List ToolRegistryEntry}
  {draws : ℕ → SyncDraw} {rows : List Row}

/-- The entries of the two registries. -/
def registryEntries (agents : List AgentRegistryEntry) (tools : List ToolRegistryEntry) :
    List RegistryEntry :=
  agents.map AgentRegistryEntry.entry ++ tools.map ToolRegistryEntry.entry

/-- The groups that an import is about. -/
def registryGroups (tenantId : String) (agents : List AgentRegistryEntry)
    (tools : List ToolRegistryEntry) : List (String × String × String) :=
  (registryEntries agents tools).map (RegistryEntry.group tenantId)

/-- An import that runs alone: how it ends, and the rows that it leaves. -/
def runSync (tenantId : String) (activate : Bool) (agents : List AgentRegistryEntry)
    (tools : List ToolRegistryEntry) (draws : ℕ → SyncDraw) (fails : ℕ → Option PyError)
    (rows : List Row) : Except PyError (List CapabilityContractRow) × List Row :=
  outcome (syncFromFilesystem py sha256 tenantId activate (.ok agents) (.ok tools) draws) fails
    rows

/-- Distinct names in each registry make distinct groups. -/
theorem nodup_registryGroups (tenantId : String)
    (hagents : (agents.map AgentRegistryEntry.name).Nodup)
    (htools : (tools.map ToolRegistryEntry.name).Nodup) :
    (registryGroups tenantId agents tools).Nodup := by
  unfold registryGroups registryEntries
  rw [List.map_append, List.map_map, List.map_map, List.nodup_append]
  refine ⟨?_, ?_, ?_⟩
  · refine List.Nodup.of_map (fun group => group.2.1) ?_
    rw [List.map_map]
    exact hagents
  · refine List.Nodup.of_map (fun group => group.2.1) ?_
    rw [List.map_map]
    exact htools
  · -- an agent and a tool differ in their kind
    intro group hagent group' htool heq
    obtain ⟨agent, -, rfl⟩ := List.mem_map.mp hagent
    obtain ⟨tool, -, rfl⟩ := List.mem_map.mp htool
    have hkind : "agent" = "tool" := congrArg Prod.fst heq
    exact absurd hkind (by decide)

/-- The agents first, then the tools. -/
theorem settles_loops {activate : Bool} {P R Q E : List Row → Prop}
    (hagents : (syncEntries py sha256 tenantId activate draws 0
      (agents.map AgentRegistryEntry.entry)).Settles schema P (fun _ => R) E)
    (htools : (syncEntries py sha256 tenantId activate draws agents.length
      (tools.map ToolRegistryEntry.entry)).Settles schema R (fun _ => Q) E) :
    (syncFromFilesystem py sha256 tenantId activate (.ok agents) (.ok tools) draws).Settles schema P
      (fun _ => Q) E := by
  show Prog.Settles schema P (fun _ => Q) E (syncEntries py sha256 tenantId activate draws 0
    (agents.map AgentRegistryEntry.entry) >>= fun synced => syncEntries py sha256 tenantId activate
      draws agents.length (tools.map ToolRegistryEntry.entry) >>= fun syncedTools =>
        pure (synced ++ syncedTools))
  exact Prog.settles_bind hagents (fun _ =>
    Prog.settles_bind htools (fun _ => Prog.settles_ok (fun _ h => h)))

/-- **A whole import that activates.** -/
theorem settles_sync (tenantId : String) (draws : ℕ → SyncDraw)
    (hkeys : (rows.map Row.key).Nodup)
    (hactive : ∀ group, (activeOf group rows).length ≤ 1)
    (hagents : (agents.map AgentRegistryEntry.name).Nodup)
    (htools : (tools.map ToolRegistryEntry.name).Nodup) :
    (syncFromFilesystem py sha256 tenantId true (.ok agents) (.ok tools) draws).Settles schema
      (fun rows' => rows' = rows)
      (fun _ => Importing py sha256 (registryGroups tenantId agents tools) tenantId rows
        (registryEntries agents tools))
      (Progress (registryGroups tenantId agents tools) rows) := by
  have hnodup := nodup_registryGroups tenantId hagents htools
  have hgroups : ∀ entry ∈ registryEntries agents tools,
      entry.group tenantId ∈ registryGroups tenantId agents tools :=
    fun entry hentry => List.mem_map_of_mem hentry
  have hagentEntries := settles_syncEntries py sha256 (registryGroups tenantId agents tools)
    tenantId draws rows (agents.map AgentRegistryEntry.entry) 0 []
    (fun entry hentry => hgroups entry (List.mem_append_left _ hentry))
    (by
      rw [List.nil_append]
      unfold registryGroups registryEntries at hnodup
      rw [List.map_append] at hnodup
      exact (List.nodup_append.mp hnodup).1)
  have htoolEntries := settles_syncEntries py sha256 (registryGroups tenantId agents tools)
    tenantId draws rows (tools.map ToolRegistryEntry.entry) agents.length
    (agents.map AgentRegistryEntry.entry)
    (fun entry hentry => hgroups entry (List.mem_append_right _ hentry)) hnodup
  refine settles_loops py sha256 (Prog.Settles.mono hagentEntries ?_ (fun _ _ h => h)
    (fun _ h => h)) htoolEntries
  rintro rows' rfl
  exact ⟨⟨hkeys, .refl _ _⟩, hactive, fun entry hentry => by cases hentry⟩

/-- **The import returns** when nothing fails and the ids are fresh. -/
theorem returns_sync (tenantId : String) (activate : Bool) (hkeys : (rows.map Row.key).Nodup)
    (hfresh : FreshDraws draws 0 rows) (agents : List AgentRegistryEntry)
    (tools : List ToolRegistryEntry) :
    ∃ records, (runSync py sha256 tenantId activate agents tools draws (fun _ => none) rows).1
      = .ok records := by
  obtain ⟨records, rows₁, hagents, hkeys₁, hfresh₁⟩ := returns_syncEntries py sha256
    tenantId activate hkeys hfresh (agents.map AgentRegistryEntry.entry)
  rw [List.length_map, Nat.zero_add] at hfresh₁
  obtain ⟨records', rows₂, htools, -, -⟩ := returns_syncEntries py sha256
    tenantId activate hkeys₁ hfresh₁ (tools.map ToolRegistryEntry.entry)
  have hreturns : (syncFromFilesystem py sha256 tenantId activate (.ok agents) (.ok tools)
      draws).Returns schema rows (records ++ records') rows₂ :=
    Prog.returns_bind Prog.returns_done (Prog.returns_bind hagents
      (Prog.returns_bind Prog.returns_done (Prog.returns_bind htools Prog.returns_done)))
  obtain ⟨t, hrun⟩ := hreturns 0
  exact ⟨_, congrArg Prod.fst hrun⟩

/-- **Capability sync converges.**  In a store with at most one active contract for each kind,
name and tenant, and for registries with distinct names:

* an import in which no statement fails and every id that it draws is fresh runs to its end;
* an import that activates and runs to its end leaves for each entry exactly one active contract,
  the one with the digest of the entry, and a second import, however it ends, changes no row;
* an import, however it ends, leaves the contracts of other names and tenants and the other
  tables as they are, deletes no contract, and gives no digest a second contract;
* an import that does not activate only adds drafts. -/
theorem sync_converges (hkeys : (rows.map Row.key).Nodup)
    (hactive : ∀ group, (activeOf group rows).length ≤ 1)
    (hagents : (agents.map AgentRegistryEntry.name).Nodup)
    (htools : (tools.map ToolRegistryEntry.name).Nodup) (fails : ℕ → Option PyError) :
    (∀ activate, FreshDraws draws 0 rows → (∀ i, fails i = none) → ∃ records,
      (runSync py sha256 tenantId activate agents tools draws fails rows).1 = .ok records) ∧
    (∀ records, (runSync py sha256 tenantId true agents tools draws fails rows).1 = .ok records →
      (∀ entry ∈ registryEntries agents tools, ∃ c,
        activeOf (entry.group tenantId)
          (runSync py sha256 tenantId true agents tools draws fails rows).2 = [c] ∧
        c.contentDigest = entry.digest py sha256) ∧
      ∀ draws' fails', (runSync py sha256 tenantId true agents tools draws' fails'
          (runSync py sha256 tenantId true agents tools draws fails rows).2).2
        = (runSync py sha256 tenantId true agents tools draws fails rows).2) ∧
    (∀ activate, Advances (registryGroups tenantId agents tools) rows
      (runSync py sha256 tenantId activate agents tools draws fails rows).2) ∧
    Drafted rows (runSync py sha256 tenantId false agents tools draws fails rows).2 := by
  obtain ⟨hok, herror⟩ := @outcome_of_settles _ _ _ _ _
    (settles_sync py sha256 tenantId draws hkeys hactive hagents htools) fails rows rfl
  have hgroups : ∀ entry ∈ registryEntries agents tools,
      entry.group tenantId ∈ registryGroups tenantId agents tools :=
    fun entry hentry => List.mem_map_of_mem hentry
  -- an import that does not activate keeps the shape of the rows, whatever fails
  have hdrafts : (syncFromFilesystem py sha256 tenantId false (.ok agents) (.ok tools)
      draws).Settles schema
      (fun rows' => Progress (registryGroups tenantId agents tools) rows rows' ∧
        Drafted rows rows')
      (fun _ rows' => Progress (registryGroups tenantId agents tools) rows rows' ∧
        Drafted rows rows')
      (fun rows' => Progress (registryGroups tenantId agents tools) rows rows' ∧
        Drafted rows rows') :=
    settles_loops py sha256
      (settles_syncEntries_drafts py sha256 _ 0
        (fun entry hentry => hgroups entry (List.mem_append_left _ hentry)))
      (settles_syncEntries_drafts py sha256 _ agents.length
        (fun entry hentry => hgroups entry (List.mem_append_right _ hentry)))
  have hdrafted := @settled_outcome _ _ _ _ hdrafts fails rows
    ⟨⟨hkeys, .refl _ _⟩, [], fun c hc => (by cases hc), (List.append_nil rows).symm⟩
  refine ⟨?_, ?_, ?_, hdrafted.2⟩
  · intro activate hfresh hnone
    rw [show fails = fun _ => none from funext hnone]
    exact returns_sync py sha256 tenantId activate hkeys hfresh agents tools
  · intro records hrun
    have himporting := hok records hrun
    constructor
    · intro entry hentry
      obtain ⟨c, hhead, hone⟩ := himporting.imported entry hentry
      refine ⟨c, hone, ?_⟩
      have hmem := List.mem_of_head? hhead
      exact of_decide_eq_true (List.mem_filter.mp hmem).2
    · intro draws' fails'
      -- the rows of the first import are what the second one keeps
      have hagain : (syncFromFilesystem py sha256 tenantId true (.ok agents) (.ok tools)
          draws').Settles schema
          (fun rows' => rows' = (runSync py sha256 tenantId true agents tools draws fails rows).2)
          (fun _ rows' =>
            rows' = (runSync py sha256 tenantId true agents tools draws fails rows).2)
          (fun rows' =>
            rows' = (runSync py sha256 tenantId true agents tools draws fails rows).2) :=
        settles_loops py sha256
          (settles_syncEntries_again py sha256 himporting.keys _ 0
            (fun entry hentry => himporting.imported entry (List.mem_append_left _ hentry)))
          (settles_syncEntries_again py sha256 himporting.keys _ agents.length
            (fun entry hentry => himporting.imported entry (List.mem_append_right _ hentry)))
      exact settled_outcome hagain fails' rfl
  · intro activate
    cases activate with
    | true =>
      cases hrun : (runSync py sha256 tenantId true agents tools draws fails rows).1 with
      | ok records => exact (hok records hrun).advances
      | error e => exact (herror e hrun).advances
    | false => exact hdrafted.1.advances

/-- A contract of an agent from an earlier version of the registry. -/
def earlierContract : CapabilityContractRow where
  contractId := "c0"
  kind := "agent"
  name := "ops-agent"
  tenantId := "platform"
  status := .active
  version := "v0"
  contentDigest := "sha256:v0"
  capabilities := []
  source := "filesystem"
  createdAt := Timestamp.isoformat 0
  updatedAt := Timestamp.isoformat 0
  activatedAt := some (Timestamp.isoformat 0)

/-- The draws of an import: the ids `c1`, `c11`, `c111` and so on. -/
def numberedDraws (n : ℕ) : SyncDraw :=
  ⟨String.ofList ('c' :: List.replicate (n + 1) '1'), 1, 1⟩

/-- No import draws the id of the earlier contract. -/
theorem numberedDraws_fresh : FreshDraws numberedDraws 0 [.capability earlierContract] := by
  refine ⟨fun i j h => ?_, fun i _ hmem => ?_⟩
  · have hlength := congrArg List.length (String.ofList_injective h)
    rw [List.length_cons, List.length_cons, List.length_replicate, List.length_replicate] at hlength
    omega
  · have hid : (numberedDraws i).contractId = String.ofList ['c', '0'] :=
      RowKey.capability.inj (List.mem_singleton.mp hmem)
    have hones := (List.cons.inj (String.ofList_injective hid)).2
    rw [List.replicate_succ] at hones
    exact absurd (List.cons.inj hones).1 (by decide)

/-- The import of one changed agent and one new tool. -/
def changedSync (rows : List Row) : Except PyError (List CapabilityContractRow) × List Row :=
  runSync .ascii id "platform" true [{ name := "ops-agent" }] [{ name := "search" }] numberedDraws
    (fun _ => none) rows

/-- The import returns, and leaves one active contract of the agent and one of the tool. -/
theorem sync_converges_changed :
    (∃ records, (changedSync [.capability earlierContract]).1 = .ok records) ∧
    (∃ c, activeOf ("agent", "ops-agent", "platform")
        (changedSync [.capability earlierContract]).2 = [c] ∧
      c.contentDigest = (AgentRegistryEntry.entry { name := "ops-agent" }).digest .ascii id) ∧
    (∃ c, activeOf ("tool", "search", "platform")
        (changedSync [.capability earlierContract]).2 = [c] ∧
      c.contentDigest = (ToolRegistryEntry.entry { name := "search" }).digest .ascii id) ∧
    (changedSync (changedSync [.capability earlierContract]).2).2
      = (changedSync [.capability earlierContract]).2 := by
  have hactive : ∀ group, (activeOf group [.capability earlierContract]).length ≤ 1 :=
    fun group => (List.length_filter_le _ _).trans (List.length_filter_le _ [earlierContract])
  obtain ⟨hreturns, hconverges, -, -⟩ := @sync_converges .ascii id "platform"
    [{ name := "ops-agent" }] [{ name := "search" }] numberedDraws [.capability earlierContract]
    (by decide) hactive (by decide) (by decide) (fun _ => none)
  obtain ⟨records, hrun⟩ := hreturns true numberedDraws_fresh (fun _ => rfl)
  obtain ⟨hactives, hagain⟩ := hconverges records hrun
  refine ⟨⟨records, hrun⟩, ?_, ?_, hagain numberedDraws (fun _ => none)⟩
  · exact hactives (AgentRegistryEntry.entry { name := "ops-agent" }) List.mem_cons_self
  · exact hactives (ToolRegistryEntry.entry { name := "search" })
      (List.mem_cons_of_mem _ List.mem_cons_self)

end Imports

end ControlPlane

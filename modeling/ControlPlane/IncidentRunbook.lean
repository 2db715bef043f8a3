/-
# The blocks of an incident runbook

`AuditStore.list_events` (`audit_service.py`) returns the events newest first, and
`_recent_blocks` (`incident_runbook_service.py`) walks over its argument from the end.  In
the endpoint the two orders compose: the runbook shows the oldest matching blocks of the
listed events, oldest first.  It shows the newest ones exactly when the two ends of the
list of matching blocks look alike (`showsLatest_iff`).
-/
import ControlPlane.Drift
import Mathlib.Data.List.DropRight
import Mathlib.Data.List.Dedup

namespace ControlPlane

/-! ## The audit store -/

/-- `AuditEvent`. -/
structure AuditEvent where
  eventId : String
  timestamp : String
  eventType : String := "governance_evaluate"
  subject : String
  team : String
  owner : String
  environment : String
  namespaceName : String
  model : String
  action : String
  policyPack : String := ""
  finalVerdict : String
  reasons : List String := []
  blockingStage : Option String := none
  identitySource : String := "default"
  groups : List String := []
  requestId : Option String := none
  deriving DecidableEq, Repr

/-- The events in the order of their arrival, at most `maxEvents` of them. -/
structure AuditStore where
  maxEvents : ℕ
  events : List AuditEvent
  bounded : events.length ≤ maxEvents

/-- `deque.append` on a deque with `maxlen`. -/
def appendBounded {α : Type} (n : ℕ) (l : List α) (a : α) : List α := (l ++ [a]).rtake n

theorem length_appendBounded_le {α : Type} (n : ℕ) (l : List α) (a : α) :
    (appendBounded n l a).length ≤ n := by
  unfold appendBounded List.rtake
  rw [List.length_drop]
  omega

namespace AuditStore

/-- A store without events. -/
def empty (maxEvents : ℕ) : AuditStore where
  maxEvents := maxEvents
  events := []
  bounded := Nat.zero_le maxEvents

/-- The store after `record_governance_evaluate` built `event`. -/
def record (store : AuditStore) (event : AuditEvent) : AuditStore where
  maxEvents := store.maxEvents
  events := appendBounded store.maxEvents store.events event
  bounded := length_appendBounded_le store.maxEvents store.events event

/-- `if value: keep the events whose field equals it`. -/
def keepIf (value : Option String) (field : AuditEvent → String) (events : List AuditEvent) :
    List AuditEvent :=
  match value with
  | some v => if v ≠ "" then events.filter (fun event => field event = v) else events
  | none => events

/-- `list_events`: the latest events first. -/
def listEvents (store : AuditStore) (limit : ℕ) (team subject verdict : Option String) :
    List AuditEvent :=
  let events := keepIf team AuditEvent.team store.events
  let events := keepIf subject AuditEvent.subject events
  let events := keepIf verdict AuditEvent.finalVerdict events
  events.reverse.take limit

end AuditStore

/-! ## The runbook -/

/-- `RecentGovernanceBlock`. -/
structure RecentGovernanceBlock where
  timestamp : String
  team : String
  model : String
  subject : String
  blockingStage : Option String
  reasons : List String
  deriving DecidableEq, Repr

/-- The entry of a runbook for an event. -/
def AuditEvent.block (event : AuditEvent) : RecentGovernanceBlock where
  timestamp := event.timestamp
  team := event.team
  model := event.model
  subject := event.subject
  blockingStage := event.blockingStage
  reasons := event.reasons

/-- `if wanted and value != wanted: continue` lets the value pass. -/
def passesFilter (wanted : Option String) (value : String) : Bool :=
  match wanted with
  | some w => w = "" || value = w
  | none => true

/-- The event is a block that passes the filters. -/
def isRecentBlock (team model : Option String) (event : AuditEvent) : Bool :=
  event.finalVerdict = "block" && passesFilter team event.team && passesFilter model event.model

/-- The loop of `_recent_blocks` over the events that are left. -/
def recentBlocksLoop (team model : Option String) (limit : ℕ) :
    List AuditEvent → List RecentGovernanceBlock → List RecentGovernanceBlock
  | [], blocks => blocks
  | event :: events, blocks =>
    if ¬ isRecentBlock team model event then recentBlocksLoop team model limit events blocks
    else
      let blocks := blocks ++ [event.block]
      if limit ≤ blocks.length then blocks
      else recentBlocksLoop team model limit events blocks

/-- `_recent_blocks`. -/
def recentBlocks (events : List AuditEvent) (team model : Option String) (limit : ℕ) :
    List RecentGovernanceBlock :=
  recentBlocksLoop team model limit events.reverse []

/-- `_unique_sorted`. -/
def uniqueSorted (values : List String) : List String :=
  (values.filter (· ≠ "")).dedup.mergeSort (· ≤ ·)

/-- What a runbook reads of a topology node. -/
structure TopologyNode where
  id : String
  health : String

/-- What it reads of a cluster. -/
structure FleetClusterStatus where
  id : String
  health : String

/-- What it reads of a recommendation. -/
structure FinOpsRecommendation where
  team : String
  model : String
  actions : List String

/-- What the endpoint reads besides the audit events. -/
structure RunbookSignals where
  drift : DriftStatus
  topology : List TopologyNode
  fleet : List FleetClusterStatus
  finops : Option (List FinOpsRecommendation)

/-- `_affected_models`. -/
def affectedModels (drift : DriftStatus) (blocks : List RecentGovernanceBlock)
    (modelFilter : Option String) : List String :=
  uniqueSorted
    (drift.backends.flatMap (fun backend =>
        backend.missingOnBackend ++ backend.unexpectedOnBackend) ++
      blocks.map RecentGovernanceBlock.model ++ modelFilter.toList)

/-- `_affected_tenants`. -/
def affectedTenants (blocks : List RecentGovernanceBlock) (teamFilter : Option String) :
    List String :=
  uniqueSorted (blocks.map RecentGovernanceBlock.team ++ teamFilter.toList)

/-- The health of what is degraded or cannot be reached. -/
def isUnhealthy (health : String) : Bool := health = "degraded" || health = "unreachable"

/-- `_affected_clusters`. -/
def affectedClusters (fleet : List FleetClusterStatus) : List String :=
  ((fleet.filter fun cluster => isUnhealthy cluster.health).map FleetClusterStatus.id).mergeSort
    (· ≤ ·)

/-- `_unhealthy_topology_nodes`. -/
def unhealthyTopologyNodes (topology : List TopologyNode) : List String :=
  ((topology.filter fun node => isUnhealthy node.health).map TopologyNode.id).mergeSort (· ≤ ·)

/-- The loop of `_finops_actions`. -/
def finopsActionsLoop (team model : Option String) (limit : ℕ) :
    List FinOpsRecommendation → List String → List String
  | [], actions => actions
  | recommendation :: recommendations, actions =>
    if ¬ (passesFilter team recommendation.team && passesFilter model recommendation.model) then
      finopsActionsLoop team model limit recommendations actions
    else
      let actions := actions ++ recommendation.actions
      if limit ≤ actions.length then actions
      else finopsActionsLoop team model limit recommendations actions

/-- `_finops_actions`. -/
def finopsActions (finops : Option (List FinOpsRecommendation)) (team model : Option String)
    (limit : ℕ) : List String :=
  match finops with
  | none => []
  | some recommendations => (finopsActionsLoop team model limit recommendations []).take limit

/-- An entry of `ALERT_CATALOG`. -/
structure AlertDefinition where
  severity : String
  summary : String
  runbookActions : List String

/-- `ALERT_CATALOG`. -/
def alertCatalog : List (String × AlertDefinition) :=
  [("GatewayLatencyP95High",
      { severity := "warning", summary := "Gateway chat p95 latency exceeds 2.5s SLO",
        runbookActions :=
          ["Check Ollama and vLLM latency probes on the control plane dashboard.",
            "Review recent canary promotions and fallback metrics in Grafana.",
            "Inspect fleet clusters with degraded backend health."] }),
    ("GatewayFallbackRateHigh",
      { severity := "warning", summary := "Gateway fallback rate exceeds 2% SLO",
        runbookActions :=
          ["Identify primary models with elevated 5xx or timeout rates.",
            "Validate backend health stores and Redis-shared routing state.",
            "Pause canary traffic until primary backends recover."] }),
    ("ShadowFailureRateHigh",
      { severity := "warning", summary := "Shadow traffic failure rate exceeds 5% SLO",
        runbookActions :=
          ["Compare shadow target health against the primary route.",
            "Review routing decision records for recent shadow errors.",
            "Hold promotion analysis until shadow error budget recovers."] }),
    ("GovernanceBlockRateHigh",
      { severity := "info", summary := "Governance block rate exceeds 10% SLO",
        runbookActions :=
          ["Review recent governance audit blocks by tenant and model.",
            "Validate quota policies and policy packs for unintended denies.",
            "Coordinate with tenant owners if blocks are expected workload shifts."] }),
    ("InventoryDriftDetected",
      { severity := "critical", summary := "Model inventory drift detected for more than 15 minutes",
        runbookActions :=
          ["Compare Helm ConfigMap inventory against live Ollama/vLLM model lists.",
            "Run GitOps reconcile or roll back the last inventory change.",
            "Block new model promotions until drift is cleared."] }),
    ("ModelAvailabilityLow",
      { severity := "critical", summary := "Model availability dropped below 99% SLO",
        runbookActions :=
          ["Check backend probes and model pull/init jobs.",
            "Fail over traffic to healthy replicas or clusters.",
            "Open a change request if inventory or registry entries are stale."] })]

/-- `_build_recommended_actions`. -/
def buildRecommendedActions (definition : AlertDefinition) (drift : DriftStatus)
    (blocks : List RecentGovernanceBlock) (unhealthyNodes clusters finops : List String) :
    List String :=
  definition.runbookActions ++
    reasonIf (drift.inSync = false)
      ("Resolve inventory drift before closing the incident: " ++ drift.summary) ++
    reasonIf (unhealthyNodes ≠ [])
      ("Investigate unhealthy topology nodes: " ++ ", ".intercalate unhealthyNodes) ++
    reasonIf (clusters ≠ [])
      ("Review degraded fleet clusters: " ++ ", ".intercalate clusters) ++
    (blocks.take 1).map (fun block =>
      "Recent governance blocks involve tenant '" ++ block.team ++ "' — " ++
        "review quota and policy packs.") ++
    finops

/-- The response without its Markdown rendering. -/
structure IncidentRunbookResponse where
  incidentId : String
  generatedAt : String
  alertName : String
  severity : String
  summary : String
  affectedModels : List String
  affectedTenants : List String
  affectedClusters : List String
  unhealthyTopologyNodes : List String
  driftInSync : Bool
  driftSummary : String
  recentGovernanceBlocks : List RecentGovernanceBlock
  finopsActions : List String
  recommendedActions : List String

/-- `incidentId` and `generatedAt` are what `uuid4` and the clock give. -/
def buildIncidentRunbook (incidentId generatedAt alertName : String) (team model : Option String)
    (signals : RunbookSignals) (auditEvents : List AuditEvent) :
    Except PyError IncidentRunbookResponse :=
  match alertCatalog.lookup alertName with
  | none => .error (.keyError alertName)
  | some definition =>
    let blocks := recentBlocks auditEvents team model 10
    let clusters := affectedClusters signals.fleet
    let nodes := unhealthyTopologyNodes signals.topology
    let actions := finopsActions signals.finops team model 5
    .ok
      { incidentId := incidentId
        generatedAt := generatedAt
        alertName := alertName
        severity := definition.severity
        summary := definition.summary
        affectedModels := affectedModels signals.drift blocks model
        affectedTenants := affectedTenants blocks team
        affectedClusters := clusters
        unhealthyTopologyNodes := nodes
        driftInSync := signals.drift.inSync
        driftSummary := signals.drift.summary
        recentGovernanceBlocks := blocks
        finopsActions := actions
        recommendedActions :=
          buildRecommendedActions definition signals.drift blocks nodes clusters actions }

/-- The endpoint. -/
def incidentRunbook (incidentId generatedAt alert : String) (team model : Option String)
    (signals : RunbookSignals) (store : AuditStore) : Except PyError IncidentRunbookResponse :=
  if alertCatalog.lookup alert = none then .error (.httpException 404 "unsupported alert")
  else
    buildIncidentRunbook incidentId generatedAt alert team model signals
      (store.listEvents 100 none none none)

/-! ## The events that are listed -/

theorem appendBounded_rtake {α : Type} (n : ℕ) (l : List α) (a : α) :
    appendBounded n (l.rtake n) a = (l ++ [a]).rtake n := by
  have hle : l.length - n ≤ l.length := Nat.sub_le _ _
  unfold appendBounded List.rtake
  rw [← List.drop_append_of_le_length hle, List.drop_drop]
  congr 1
  simp only [List.length_drop, List.length_append, List.length_singleton]
  omega

/-- The store after a sequence of events was recorded. -/
def recorded (maxEvents : ℕ) (events : List AuditEvent) : AuditStore :=
  events.foldl AuditStore.record (AuditStore.empty maxEvents)

theorem foldl_record_events (maxEvents : ℕ) (events before : List AuditEvent)
    (store : AuditStore) (hmax : store.maxEvents = maxEvents)
    (hstore : store.events = before.rtake maxEvents) :
    (events.foldl AuditStore.record store).events = (before ++ events).rtake maxEvents := by
  induction events generalizing before store with
  | nil =>
      rw [List.append_nil]
      exact hstore
  | cons event events ih =>
      have hnext : (store.record event).events = (before ++ [event]).rtake maxEvents := by
        show appendBounded store.maxEvents store.events event = _
        rw [hmax, hstore, appendBounded_rtake]
      have h := ih (before ++ [event]) (store.record event) hmax hnext
      rw [List.append_assoc, List.singleton_append] at h
      exact h

/-- The store keeps the last events, in their order. -/
theorem recorded_events (maxEvents : ℕ) (events : List AuditEvent) :
    (recorded maxEvents events).events = events.rtake maxEvents :=
  foldl_record_events maxEvents events [] (AuditStore.empty maxEvents) rfl
    (by simp [AuditStore.empty])

/-- The matching blocks among the events that the endpoint lists, newest first. -/
def matchingBlocks (store : AuditStore) (team model : Option String) : List AuditEvent :=
  (store.listEvents 100 none none none).filter (isRecentBlock team model)

/-! ## What the runbook shows -/

/-- The loop keeps the first matches until it has `limit` of them. -/
theorem recentBlocksLoop_eq (team model : Option String) (limit : ℕ) (events : List AuditEvent)
    (blocks : List RecentGovernanceBlock) (hlt : blocks.length < limit) :
    recentBlocksLoop team model limit events blocks =
      blocks ++ ((events.filter (isRecentBlock team model)).map AuditEvent.block).take
        (limit - blocks.length) := by
  induction events generalizing blocks with
  | nil => simp [recentBlocksLoop]
  | cons event events ih =>
      unfold recentBlocksLoop
      by_cases hmatch : isRecentBlock team model event = true
      · have hlen : (blocks ++ [event.block]).length = blocks.length + 1 := by simp
        have hsub : limit - blocks.length = (limit - (blocks.length + 1)) + 1 := by omega
        simp only [hmatch, not_true_eq_false, if_false]
        rw [List.filter_cons_of_pos hmatch, List.map_cons, hsub, List.take_succ_cons]
        by_cases hfull : limit ≤ (blocks ++ [event.block]).length
        · -- the list is full, nothing more is taken
          have hzero : limit - (blocks.length + 1) = 0 := by omega
          simp only [hfull, if_true]
          rw [hzero, List.take_zero]
        · simp only [hfull, if_false]
          rw [ih _ (by omega), hlen, List.append_assoc, List.singleton_append]
      · simp only [hmatch]
        rw [List.filter_cons_of_neg hmatch]
        exact ih blocks hlt

theorem recentBlocks_eq (events : List AuditEvent) (team model : Option String) :
    recentBlocks events team model 10 =
      (((events.filter (isRecentBlock team model)).map AuditEvent.block).reverse).take 10 := by
  unfold recentBlocks
  rw [recentBlocksLoop_eq team model 10 events.reverse [] (by decide)]
  rw [List.nil_append, List.filter_reverse, List.map_reverse]
  rfl

theorem recentGovernanceBlocks_eq {incidentId generatedAt alert : String}
    {team model : Option String} {signals : RunbookSignals} {store : AuditStore}
    {runbook : IncidentRunbookResponse}
    (h : incidentRunbook incidentId generatedAt alert team model signals store = .ok runbook) :
    runbook.recentGovernanceBlocks =
      (((matchingBlocks store team model).map AuditEvent.block).reverse).take 10 := by
  unfold incidentRunbook at h
  split at h
  · simp at h
  · unfold buildIncidentRunbook at h
    split at h
    · simp at h
    · simp only [Except.ok.injEq] at h
      rw [← h]
      exact recentBlocks_eq _ team model

/-- Every runbook of the endpoint shows the newest matching blocks, at most ten of them,
newest first. -/
def ShowsLatest (store : AuditStore) (team model : Option String) : Prop :=
  ∀ incidentId generatedAt alert signals runbook,
    incidentRunbook incidentId generatedAt alert team model signals store = .ok runbook →
      runbook.recentGovernanceBlocks =
        ((matchingBlocks store team model).take 10).map AuditEvent.block

/-- The entries that are paired when the list is read from both ends are equal, among the
first ten pairs. -/
def MirrorImage {α : Type} (l : List α) : Prop :=
  ∀ i < 10, i < l.length → l[i]? = l[l.length - 1 - i]?

theorem take_reverse_eq_iff {α : Type} (l : List α) :
    l.reverse.take 10 = l.take 10 ↔ MirrorImage l := by
  constructor
  · intro h i hi hlen
    have hget := congrArg (fun m => m[i]?) h
    simp only [List.getElem?_take, hi, if_true] at hget
    rw [List.getElem?_reverse hlen] at hget
    exact hget.symm
  · intro h
    apply List.ext_getElem?
    intro i
    rw [List.getElem?_take, List.getElem?_take]
    by_cases hi : i < 10
    · simp only [hi, if_true]
      by_cases hlen : i < l.length
      · rw [List.getElem?_reverse hlen]
        exact (h i hi hlen).symm
      · rw [List.getElem?_eq_none (by simpa using hlen), List.getElem?_eq_none (by omega)]
    · simp only [hi, if_false]

/-- Some runbook exists, so that the endpoint shows what its two reversals leave. -/
theorem showsLatest_iff_mirrorImage (store : AuditStore) (team model : Option String) :
    ShowsLatest store team model ↔
      MirrorImage ((matchingBlocks store team model).map AuditEvent.block) := by
  rw [← take_reverse_eq_iff, ← List.map_take]
  constructor
  · intro h
    have hrun := h "" "" "GatewayLatencyP95High"
      { drift := { updatedAt := "", inSync := true, summary := "", backends := [] },
        topology := [], fleet := [], finops := none } _ rfl
    rw [← hrun]
    exact (recentBlocks_eq _ team model).symm
  · intro h incidentId generatedAt alert signals runbook hrun
    rw [recentGovernanceBlocks_eq hrun]
    exact h

/-! ## Distinct times -/

theorem matchingBlocks_sublist (maxEvents : ℕ) (events : List AuditEvent)
    (team model : Option String) :
    (matchingBlocks (recorded maxEvents events) team model).Sublist events.reverse := by
  have hlisted : (recorded maxEvents events).listEvents 100 none none none =
      (events.rtake maxEvents).reverse.take 100 := by
    show (recorded maxEvents events).events.reverse.take 100 = _
    rw [recorded_events]
  unfold matchingBlocks
  rw [hlisted]
  have hkept : (events.rtake maxEvents).Sublist events := List.drop_sublist _ _
  exact List.filter_sublist.trans ((List.take_sublist 100 _).trans hkept.reverse)

/-- A list without repetitions is no mirror image of itself from two entries on. -/
theorem mirrorImage_iff_of_nodup {α : Type} {l : List α} (hl : l.Nodup) :
    MirrorImage l ↔ l.length ≤ 1 := by
  constructor
  · intro h
    by_contra hlen
    have hpair := h 0 (by decide) (by omega)
    have hfirst : 0 < l.length := by omega
    have hlast : l.length - 1 - 0 < l.length := by omega
    rw [List.getElem?_eq_getElem hfirst, List.getElem?_eq_getElem hlast] at hpair
    have hindex := (List.Nodup.getElem_inj_iff hl).mp (Option.some.inj hpair)
    omega
  · intro hlen i _ hi
    have h1 : i = 0 := by omega
    have h2 : l.length - 1 - i = 0 := by omega
    rw [h1] at h2 ⊢
    rw [h2]

theorem blocks_nodup {maxEvents : ℕ} {events : List AuditEvent} {team model : Option String}
    (htimes : (events.map AuditEvent.timestamp).Nodup) :
    ((matchingBlocks (recorded maxEvents events) team model).map AuditEvent.block).Nodup := by
  have hsub := (matchingBlocks_sublist maxEvents events team model).map AuditEvent.timestamp
  rw [List.map_reverse] at hsub
  have hnodup := (List.nodup_reverse.mpr htimes).sublist hsub
  have hcomp : (matchingBlocks (recorded maxEvents events) team model).map AuditEvent.timestamp =
      ((matchingBlocks (recorded maxEvents events) team model).map AuditEvent.block).map
        RecentGovernanceBlock.timestamp := by
    rw [List.map_map]
    rfl
  rw [hcomp] at hnodup
  exact List.Nodup.of_map _ hnodup

/-- **The runbook shows the latest blocks** exactly when the matching blocks that are
listed look the same from both ends, as far as ten entries reach; when all events have
different timestamps this means that at most one block matches. -/
theorem showsLatest_iff (maxEvents : ℕ) (events : List AuditEvent) (team model : Option String) :
    (ShowsLatest (recorded maxEvents events) team model ↔
        MirrorImage
          ((matchingBlocks (recorded maxEvents events) team model).map AuditEvent.block)) ∧
      ((events.map AuditEvent.timestamp).Nodup →
        (ShowsLatest (recorded maxEvents events) team model ↔
          (matchingBlocks (recorded maxEvents events) team model).length ≤ 1)) := by
  have hmirror := showsLatest_iff_mirrorImage (recorded maxEvents events) team model
  refine ⟨hmirror, fun htimes => ?_⟩
  rw [hmirror, mirrorImage_iff_of_nodup (blocks_nodup htimes), List.length_map]

/-- A block at the given second. -/
def blockAt (timestamp : String) : AuditEvent where
  eventId := timestamp
  timestamp := timestamp
  subject := "bob"
  team := "finance"
  owner := "bob"
  environment := "production"
  namespaceName := "default"
  model := "llama"
  action := "invoke_model"
  finalVerdict := "block"

/-- One block, and no other event. -/
theorem showsLatest_iff_one :
    ShowsLatest (recorded 1000 [blockAt "10:00:00"]) none none ↔
      (matchingBlocks (recorded 1000 [blockAt "10:00:00"]) none none).length ≤ 1 :=
  (showsLatest_iff 1000 [blockAt "10:00:00"] none none).2 (by decide)

/-- Two blocks one second apart are shown in the order in which they happened. -/
theorem showsLatest_fails :
    ¬ ShowsLatest (recorded 1000 [blockAt "10:00:00", blockAt "10:00:01"]) none none := by
  rw [showsLatest_iff_mirrorImage]
  intro h
  have hpair := h 0 (by decide) (by decide)
  revert hpair
  decide

end ControlPlane

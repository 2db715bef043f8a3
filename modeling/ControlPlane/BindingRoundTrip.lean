/-
# The binding of a stored request (`app/approval_binding.py`, `app/decision_store.py`)

`binding_payload` takes a request or any mapping.  A decision keeps the dump of its request
as a JSON text, and the digest is computed again from the mapping read back.  Both ways give
one digest (`digestOfStored_eq`), and the digest determines exactly the groups up to their
order, the effective tenant and the other binding fields (`digest_exact`).
-/
import ControlPlane.Binding
import ControlPlane.JsonText

namespace ControlPlane.Binding

variable (py : PyRuntime) (sha256 : String → String)

/-! ## The payload of a mapping -/

/-- `_BINDING_FIELDS`. -/
def bindingFieldNames : List String :=
  ["subject", "groups", "policy_pack", "team", "tenant_id", "owner", "environment", "namespace",
    "action", "model", "provider", "input_tokens", "output_tokens", "cost_per_request_usd",
    "cost_per_hour_usd", "month_to_date_cost_usd", "forecast_monthly_cost_usd",
    "sensitive_data", "tool_access", "write_permission", "model_revision",
    "model_artifact_digest", "agent", "region"]

/-- `raw.get(key)`. -/
def getField (raw : List (String × Json.Value)) (key : String) : Json.Value :=
  (raw.lookup key).getD .null

/-- `x or y` on JSON values. -/
def orValue (x y : Json.Value) : Json.Value := if jsonTruthy x then x else y

/-- The items a loop over a value visits. -/
def iterItems : Json.Value → Except PyError (List Json.Value)
  | .arr items => .ok items
  | .obj fields => .ok (fields.map (fun field => .str field.1))
  | .str s => .ok (s.toList.map (fun c => .str (String.singleton c)))
  | .null => .error (.typeError "'NoneType' object is not iterable")
  | .bool _ => .error (.typeError "'bool' object is not iterable")
  | .int _ => .error (.typeError "'int' object is not iterable")
  | .float _ => .error (.typeError "'float' object is not iterable")

/-- The normal form `binding_payload` gives one field. -/
def bindingValue (raw : List (String × Json.Value)) (key : String) : Except PyError Json.Value :=
  if key = "groups" then do
    let items ← iterItems (orValue (getField raw key) (.arr []))
    return .arr (((items.map py.strJson).insertionSort (· ≤ ·)).map .str)
  else if key = "tenant_id" then
    .ok (.str (py.strJson (orValue (orValue (getField raw key) (getField raw "team")) (.str ""))))
  else
    match getField raw key with
    | .null => .ok (.str "")
    | value => .ok value

/-- `binding_payload` of a mapping. -/
def bindingPayloadOf (raw : List (String × Json.Value)) :
    Except PyError (List (String × Json.Value)) :=
  bindingFieldNames.mapM (fun key => do return (key, ← bindingValue py raw key))

/-- `compute_request_digest` of a mapping. -/
def computeMappingDigest (raw : List (String × Json.Value)) : Except PyError String := do
  let payload ← bindingPayloadOf py raw
  return sha256 (Json.dumps py.floats (.obj (Json.sortKeys payload)))

/-! ## The dump of a request -/

/-- `request.model_dump()`. -/
def modelDump (request : GovernanceEvaluateRequest) : List (String × Json.Value) :=
  [("subject", .str request.subject),
    ("groups", .arr (request.groups.map .str)),
    ("policy_pack", .str request.policyPack),
    ("team", .str request.team),
    ("tenant_id", .str request.tenantId),
    ("owner", .str request.owner),
    ("environment", .str request.environment),
    ("namespace", .str request.namespace),
    ("action", .str request.action),
    ("model", .str request.model),
    ("provider", .str request.provider),
    ("input_tokens", .int request.inputTokens),
    ("output_tokens", .int request.outputTokens),
    ("cost_per_request_usd", .float request.costPerRequestUsd),
    ("cost_per_hour_usd", .float request.costPerHourUsd),
    ("month_to_date_cost_usd", .float request.monthToDateCostUsd),
    ("forecast_monthly_cost_usd", .float request.forecastMonthlyCostUsd),
    ("sensitive_data", .bool request.sensitiveData),
    ("tool_access", .bool request.toolAccess),
    ("write_permission", .bool request.writePermission),
    ("requests_last_minute", .int request.requestsLastMinute),
    ("tokens_today", .int request.tokensToday),
    ("model_revision", .str request.modelRevision),
    ("model_artifact_digest", .str request.modelArtifactDigest),
    ("prompt_text", .str request.promptText),
    ("agent", .str request.agent),
    ("region", .str request.region)]

/-- One field after the other. -/
theorem payload_cons {raw : List (String × Json.Value)} {key : String} {keys : List String}
    {value : Json.Value} {fields : List (String × Json.Value)}
    (hvalue : bindingValue py raw key = .ok value)
    (hfields : keys.mapM (fun key => do return (key, ← bindingValue py raw key)) = .ok fields) :
    (key :: keys).mapM (fun key => do return (key, ← bindingValue py raw key))
      = .ok ((key, value) :: fields) := by
  rw [List.mapM_cons, hvalue, hfields]
  rfl

/-- A list of strings is visited in order, whether it is empty or not. -/
theorem iterItems_strings (items : List String) :
    iterItems (orValue (.arr (items.map .str)) (.arr [])) = .ok (items.map .str) := by
  cases items with
  | nil => rfl
  | cons item items => rfl

theorem bindingValue_groups (request : GovernanceEvaluateRequest) :
    bindingValue py (modelDump request) "groups"
      = .ok (.arr ((request.groups.insertionSort (· ≤ ·)).map .str)) := by
  have hitems := iterItems_strings request.groups
  have hstr : (request.groups.map Json.Value.str).map py.strJson = request.groups := by
    rw [List.map_map]
    exact List.map_id _
  show (iterItems (orValue (.arr (request.groups.map .str)) (.arr [])) >>= fun items =>
    pure (Json.Value.arr (((items.map py.strJson).insertionSort (· ≤ ·)).map .str))) = _
  rw [hitems]
  show Except.ok (Json.Value.arr ((((request.groups.map Json.Value.str).map
    py.strJson).insertionSort (· ≤ ·)).map .str)) = _
  rw [hstr]

theorem bindingValue_tenant (request : GovernanceEvaluateRequest) :
    bindingValue py (modelDump request) "tenant_id"
      = .ok (.str (orElse request.tenantId request.team)) := by
  show Except.ok (Json.Value.str (py.strJson
    (orValue (orValue (.str request.tenantId) (.str request.team)) (.str "")))) = _
  unfold orValue orElse jsonTruthy
  by_cases htenant : request.tenantId = ""
  · by_cases hteam : request.team = ""
    · simp [htenant, hteam, PyRuntime.strJson]
    · simp [htenant, hteam, PyRuntime.strJson]
  · simp [htenant, PyRuntime.strJson]

/-- **A request is bound through its dump.** -/
theorem bindingPayloadOf_modelDump (request : GovernanceEvaluateRequest) :
    bindingPayloadOf py (modelDump request) = .ok (bindingFields request) := by
  unfold bindingPayloadOf bindingFieldNames bindingFields
  apply payload_cons py rfl
  apply payload_cons py (bindingValue_groups py request)
  apply payload_cons py rfl
  apply payload_cons py rfl
  apply payload_cons py (bindingValue_tenant py request)
  repeat apply payload_cons py rfl
  rfl

theorem computeMappingDigest_modelDump (request : GovernanceEvaluateRequest) :
    computeMappingDigest py sha256 (modelDump request)
      = .ok (computeRequestDigest py sha256 request) := by
  unfold computeMappingDigest
  rw [bindingPayloadOf_modelDump]
  rfl

/-! ## Through the store -/

/-- `json.dumps(request or {})` in `create_decision`. -/
def requestJson (request : List (String × Json.Value)) : String :=
  Json.dumpsSpaced py.floats (.obj request)

/-- `json.loads(request_json or "{}")` in `_decision_from_row`. -/
def storedRequest (requestJson : String) : Option Json.Value :=
  Json.loadsSpaced py.floats (orElse requestJson "{}")

/-- `compute_request_digest(record.request)` for the text in a decision's row. -/
def digestOfStored (requestJson : String) : Except PyError String :=
  match storedRequest py requestJson with
  | some (.obj raw) => computeMappingDigest py sha256 raw
  | _ => .error (.valueError requestJson)

theorem storedRequest_requestJson (request : List (String × Json.Value)) :
    storedRequest py (requestJson py request) = some (.obj request) := by
  have hne : requestJson py request ≠ "" := by
    intro h
    have hlist := congrArg String.toList h
    rw [requestJson, Json.dumpsSpaced, String.toList_ofList] at hlist
    cases request <;> cases hlist
  rw [storedRequest, orElse, if_neg hne]
  exact Json.loadsSpaced_dumpsSpaced py.floats (.obj request)

/-- The digest survives the store. -/
theorem digestOfStored_eq (request : GovernanceEvaluateRequest) :
    digestOfStored py sha256 (requestJson py (modelDump request))
      = .ok (computeRequestDigest py sha256 request) := by
  unfold digestOfStored
  rw [storedRequest_requestJson]
  exact computeMappingDigest_modelDump py sha256 request

/-! ## What the digest means -/

/-- The requests agree on what an approval authorises. -/
structure SameBinding (a b : GovernanceEvaluateRequest) : Prop where
  groups : a.groups.Perm b.groups
  tenant : orElse a.tenantId a.team = orElse b.tenantId b.team
  subject : a.subject = b.subject
  policyPack : a.policyPack = b.policyPack
  team : a.team = b.team
  owner : a.owner = b.owner
  environment : a.environment = b.environment
  «namespace» : a.namespace = b.namespace
  action : a.action = b.action
  model : a.model = b.model
  provider : a.provider = b.provider
  inputTokens : a.inputTokens = b.inputTokens
  outputTokens : a.outputTokens = b.outputTokens
  costPerRequestUsd : a.costPerRequestUsd = b.costPerRequestUsd
  costPerHourUsd : a.costPerHourUsd = b.costPerHourUsd
  monthToDateCostUsd : a.monthToDateCostUsd = b.monthToDateCostUsd
  forecastMonthlyCostUsd : a.forecastMonthlyCostUsd = b.forecastMonthlyCostUsd
  sensitiveData : a.sensitiveData = b.sensitiveData
  toolAccess : a.toolAccess = b.toolAccess
  writePermission : a.writePermission = b.writePermission
  modelRevision : a.modelRevision = b.modelRevision
  modelArtifactDigest : a.modelArtifactDigest = b.modelArtifactDigest
  agent : a.agent = b.agent
  region : a.region = b.region

/-- Sorting forgets exactly the order. -/
theorem sorted_eq_iff (l l' : List String) :
    l.insertionSort (· ≤ ·) = l'.insertionSort (· ≤ ·) ↔ l.Perm l' := by
  constructor
  · intro h
    have hl := List.perm_insertionSort (· ≤ ·) l
    have hl' := List.perm_insertionSort (· ≤ ·) l'
    exact hl.symm.trans (h ▸ hl')
  · intro h
    have hperm : (l.insertionSort (· ≤ ·)).Perm (l'.insertionSort (· ≤ ·)) :=
      (List.perm_insertionSort (· ≤ ·) l).trans
        (h.trans (List.perm_insertionSort (· ≤ ·) l').symm)
    exact hperm.eq_of_pairwise' (List.pairwise_insertionSort (· ≤ ·) l)
      (List.pairwise_insertionSort (· ≤ ·) l')

theorem bound_eq_iff (a b : GovernanceEvaluateRequest) : bound a = bound b ↔ SameBinding a b := by
  constructor
  · intro h
    simp only [bound, GovernanceEvaluateRequest.mk.injEq, sorted_eq_iff] at h
    obtain ⟨hsubject, hgroups, hpack, hteam, htenant, howner, henvironment, hnamespace, haction,
      hmodel, hprovider, hinput, houtput, hrequest, hhour, hmonth, hforecast, hsensitive, htool,
      hwrite, -, -, hrevision, hartifact, -, hagent, hregion⟩ := h
    exact ⟨hgroups, htenant, hsubject, hpack, hteam, howner, henvironment, hnamespace, haction,
      hmodel, hprovider, hinput, houtput, hrequest, hhour, hmonth, hforecast, hsensitive, htool,
      hwrite, hrevision, hartifact, hagent, hregion⟩
  · intro h
    have htenant := h.tenant
    rw [h.team] at htenant
    simp only [bound, GovernanceEvaluateRequest.mk.injEq, sorted_eq_iff, h.groups, htenant,
      h.subject, h.policyPack, h.team, h.owner, h.environment, h.namespace, h.action, h.model,
      h.provider, h.inputTokens, h.outputTokens, h.costPerRequestUsd, h.costPerHourUsd,
      h.monthToDateCostUsd, h.forecastMonthlyCostUsd, h.sensitiveData, h.toolAccess,
      h.writePermission, h.modelRevision, h.modelArtifactDigest, h.agent, h.region, and_self]

/-- **The exact meaning of the approval digest.**  Two requests have one digest exactly when
they agree on what an approval authorises, and the digest of the mapping a decision's row
gives back is the digest of its request.  Floats are exact rationals: `-0.0` and `0.0` are one
value here, though `json.dumps` prints them apart. -/
theorem digest_exact (hsha : Function.Injective sha256) :
    (∀ a b : GovernanceEvaluateRequest,
      computeRequestDigest py sha256 a = computeRequestDigest py sha256 b ↔ SameBinding a b) ∧
    ∀ a : GovernanceEvaluateRequest,
      digestOfStored py sha256 (requestJson py (modelDump a))
        = .ok (computeRequestDigest py sha256 a) := by
  constructor
  · intro a b
    rw [computeRequestDigest_eq_iff py sha256 hsha, bound_eq_iff]
  · exact fun a => digestOfStored_eq py sha256 a

/-- The runtime that knows ASCII only, with texts as their own digests: two spellings of one
binding, two bindings, and a stored request. -/
theorem digest_exact_ascii :
    Function.Injective (id : String → String) ∧
    (computeRequestDigest .ascii id { groups := ["b", "a"], tenantId := "platform" }
        = computeRequestDigest .ascii id { groups := ["a", "b"], tokensToday := 7 }
      ↔ SameBinding { groups := ["b", "a"], tenantId := "platform" }
        { groups := ["a", "b"], tokensToday := 7 }) ∧
    digestOfStored .ascii id (requestJson .ascii (modelDump { groups := ["b", "a"] }))
      = .ok (computeRequestDigest .ascii id { groups := ["b", "a"] }) :=
  ⟨Function.injective_id,
    (digest_exact .ascii id Function.injective_id).1 { groups := ["b", "a"], tenantId := "platform" }
      { groups := ["a", "b"], tokensToday := 7 },
    (digest_exact .ascii id Function.injective_id).2 { groups := ["b", "a"] }⟩

end ControlPlane.Binding

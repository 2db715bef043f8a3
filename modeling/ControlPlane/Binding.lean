/-
# The approval binding (`app/approval_binding.py`)

An approval is bound to the digest of the fields that define what it authorises.
The digest forgets the live counters and the prompt text; everything else the
pipeline reads is in it.  Two requests with one digest therefore run through the
same rules except for the prompt scanner, and get the same verdict exactly when the
scanner makes no difference.
-/
import ControlPlane.Governance.Pipeline

namespace ControlPlane.Binding

variable (py : PyRuntime) (sha256 : String → String)

/-! ## The digest -/

/-- The fields of `_BINDING_FIELDS` with the values `binding_payload` gives them. -/
def bindingFields (request : GovernanceEvaluateRequest) : List (String × Json.Value) :=
  [("subject", .str request.subject),
    ("groups", .arr ((request.groups.insertionSort (· ≤ ·)).map .str)),
    ("policy_pack", .str request.policyPack),
    ("team", .str request.team),
    ("tenant_id", .str (orElse request.tenantId request.team)),
    ("owner", .str request.owner),
    ("environment", .str request.environment),
    ("namespace", .str request.namespace),
    ("action", .str request.action),
    ("model", .str request.model),
    ("provider", .str request.provider),
    ("input_tokens", .int request.inputTokens),
    ("output_tokens", .int request.outputTokens),
    ("cost_per_request_usd", .float request.costPerRequestUsd),
    ("cost_per_hour_usd", .float request.costPerHourUsd),
    ("month_to_date_cost_usd", .float request.monthToDateCostUsd),
    ("forecast_monthly_cost_usd", .float request.forecastMonthlyCostUsd),
    ("sensitive_data", .bool request.sensitiveData),
    ("tool_access", .bool request.toolAccess),
    ("write_permission", .bool request.writePermission),
    ("model_revision", .str request.modelRevision),
    ("model_artifact_digest", .str request.modelArtifactDigest),
    ("agent", .str request.agent),
    ("region", .str request.region)]

/-- `binding_payload` with the keys in the order `sort_keys=True` writes them. -/
def bindingPayload (request : GovernanceEvaluateRequest) : Json.Value :=
  .obj (Json.sortKeys (bindingFields request))

/-- The SHA-256 digest of the compact JSON text of the payload. -/
def computeRequestDigest (request : GovernanceEvaluateRequest) : String :=
  sha256 (Json.dumps py.floats (bindingPayload request))

/-! ## What the digest determines -/

/-- The request with everything erased that its digest does not cover. -/
def bound (request : GovernanceEvaluateRequest) : GovernanceEvaluateRequest :=
  { request with
    groups := request.groups.insertionSort (· ≤ ·)
    tenantId := orElse request.tenantId request.team
    requestsLastMinute := 0
    tokensToday := 0
    promptText := "" }

theorem bindingFields_bound (request : GovernanceEvaluateRequest) :
    bindingFields (bound request) = bindingFields request := by
  have hgroups : (bound request).groups.insertionSort (· ≤ ·)
      = request.groups.insertionSort (· ≤ ·) :=
    (List.pairwise_insertionSort (· ≤ ·) request.groups).insertionSort_eq
  have htenant : orElse (bound request).tenantId (bound request).team
      = orElse request.tenantId request.team := by
    show orElse (orElse request.tenantId request.team) request.team = _
    unfold orElse
    split_ifs <;> simp_all
  unfold bindingFields
  rw [hgroups, htenant]
  rfl

theorem bound_eq_of_bindingFields_eq {p q : GovernanceEvaluateRequest}
    (h : bindingFields p = bindingFields q) : bound p = bound q := by
  have hmap : ∀ l l' : List String,
      l.map Json.Value.str = l'.map Json.Value.str ↔ l = l' :=
    fun l l' => (List.map_injective_iff.mpr (fun a b hab => Json.Value.str.inj hab)).eq_iff
  simp only [bindingFields, List.cons.injEq, Prod.mk.injEq, true_and, Json.Value.str.injEq,
    Json.Value.int.injEq, Json.Value.float.injEq, Json.Value.bool.injEq, Json.Value.arr.injEq,
    and_true, hmap] at h
  have htenant : orElse p.tenantId p.team = orElse q.tenantId q.team := h.2.2.2.2.1
  unfold bound
  rw [htenant]
  simp only [h]

/-- **What the digest determines**: two requests have one digest exactly when they agree on
everything but the order of the groups, the spelling of a default tenant, the live counters
and the prompt. -/
theorem computeRequestDigest_eq_iff (hsha : Function.Injective sha256)
    (p q : GovernanceEvaluateRequest) :
    computeRequestDigest py sha256 p = computeRequestDigest py sha256 q ↔ bound p = bound q := by
  constructor
  · intro h
    have hobj := Json.dumps_injective py.floats (hsha h)
    unfold bindingPayload at hobj
    rw [Json.Value.obj.injEq] at hobj
    refine bound_eq_of_bindingFields_eq (Json.eq_of_sortKeys_eq hobj rfl ?_)
    show ["subject", "groups", "policy_pack", "team", "tenant_id", "owner", "environment",
      "namespace", "action", "model", "provider", "input_tokens", "output_tokens",
      "cost_per_request_usd", "cost_per_hour_usd", "month_to_date_cost_usd",
      "forecast_monthly_cost_usd", "sensitive_data", "tool_access", "write_permission",
      "model_revision", "model_artifact_digest", "agent", "region"].Nodup
    decide
  · intro h
    unfold computeRequestDigest bindingPayload
    rw [← bindingFields_bound p, h, bindingFields_bound]

/-! ## What the pipeline reads beyond the digest -/

variable (env : EngineEnv)

/-- A row with another prompt. -/
def withPrompt (row : PipelineRow) (promptText : String) : PipelineRow :=
  { row with promptText := promptText }

/-- Requests with one digest and the same live counters have rows that differ in the
prompt only. -/
theorem toPipelineRow_of_bound_eq {p q : GovernanceEvaluateRequest} (h : bound p = bound q)
    (hreq : p.requestsLastMinute = q.requestsLastMinute) (htok : p.tokensToday = q.tokensToday) :
    toPipelineRow q = withPrompt (toPipelineRow p) q.promptText := by
  have hrow : toPipelineRow (bound p) = toPipelineRow (bound q) := by rw [h]
  have hsubject : p.subject = q.subject := congrArg (fun r => r.subject) h
  simp only [toPipelineRow, bound, PipelineRow.mk.injEq] at hrow
  simp only [toPipelineRow, withPrompt, hsubject, hrow, hreq, htok]

/-- Only the prompt scanner reads the prompt. -/
theorem otherRulesBlock_withPrompt (config : PolicyConfig)
    (telemetry : Option GovernanceTelemetryStage) (row : PipelineRow) (promptText : String) :
    OtherRulesBlock py env config telemetry (withPrompt row promptText)
      ↔ OtherRulesBlock py env config telemetry row :=
  Iff.rfl

theorem rulesAsk_withPrompt (config : PolicyConfig)
    (telemetry : Option GovernanceTelemetryStage) (row : PipelineRow) (promptText : String) :
    RulesAsk py env config telemetry (withPrompt row promptText)
      ↔ RulesAsk py env config telemetry row :=
  Iff.rfl

/-- **When the binding is sound.**  Two requests with one digest and the same live counters
get the same verdict exactly when the scanner blocks both prompts or neither, or when the
telemetry or a rule of another engine blocks them in any case. -/
theorem finalVerdict_eq_iff_of_digest_eq (hsha : Function.Injective sha256)
    (bundle : PolicyBundle) (config : PolicyConfig)
    (telemetry : Option GovernanceTelemetryStage)
    (capabilities : String → String → Except PyError (String × String))
    (p q : GovernanceEvaluateRequest) (r r' : GovernanceEvaluateResponse)
    (hconfig : bundle.config = .ok config)
    (hdigest : computeRequestDigest py sha256 p = computeRequestDigest py sha256 q)
    (hreq : p.requestsLastMinute = q.requestsLastMinute) (htok : p.tokensToday = q.tokensToday)
    (h : evaluateGovernanceRequest py env bundle telemetry capabilities p = .ok r)
    (h' : evaluateGovernanceRequest py env bundle telemetry capabilities q = .ok r') :
    r.finalVerdict = r'.finalVerdict ↔
      (PromptBlocks py (toPipelineRow p) ↔ PromptBlocks py (toPipelineRow q)) ∨
      TelemetryBlocks telemetry ∨ OtherRulesBlock py env config telemetry (toPipelineRow p) := by
  obtain ⟨config₁, s, hconfig₁, hs, hv⟩ := evaluateGovernanceRequest_ok py env h
  obtain ⟨config₂, s', hconfig₂, hs', hv'⟩ := evaluateGovernanceRequest_ok py env h'
  rw [hconfig, Except.ok.injEq] at hconfig₁ hconfig₂
  subst hconfig₁ hconfig₂
  rw [computeRequestDigest_eq_iff py sha256 hsha] at hdigest
  rw [toPipelineRow_of_bound_eq hdigest hreq htok] at hs' ⊢
  have hblocked := blocked_iff_rulesBlock py env hs
  have hblocked' := blocked_iff_rulesBlock py env hs'
  rw [otherRulesBlock_withPrompt] at hblocked'
  rw [hv, hv', Verdict.eq_iff_forall, judge_block_iff, judge_block_iff, judge_ne_allow_iff,
    judge_ne_allow_iff]
  have hasked : ¬ s.Blocked → ¬ s'.Blocked → (s.Asked ↔ s'.Asked) := by
    intro hb hb'
    rw [asked_iff_rulesAsk py env hs hb, asked_iff_rulesAsk py env hs' hb', rulesAsk_withPrompt]
  by_cases htel : TelemetryBlocks telemetry
  · simp only [htel, true_or, or_true, and_self]
  by_cases hother : OtherRulesBlock py env config telemetry (toPipelineRow p)
  · have hb : s.Blocked := hblocked.mpr (Or.inr hother)
    have hb' : s'.Blocked := hblocked'.mpr (Or.inr hother)
    simp only [hb, hb', hother, or_true, true_or, and_self]
  simp only [hother, or_false] at hblocked hblocked'
  simp only [htel, hother, false_or, or_false, ← hblocked, ← hblocked']
  constructor
  · exact fun hle => hle.1
  · intro hiff
    refine ⟨hiff, ?_⟩
    by_cases hb : s.Blocked
    · simp only [hb, hiff.mp hb, true_or]
    · have hb' : ¬ s'.Blocked := fun hb' => hb (hiff.mpr hb')
      simp only [hb, hb', false_or]
      exact hasked hb hb'

/-- A production request of the shipped bundle with a given prompt. -/
def promptRequest (promptText : String) : GovernanceEvaluateRequest :=
  { policyPack := "development", environment := "production", promptText := promptText }

/-- Two harmless prompts. -/
theorem finalVerdict_eq_iff_harmless :
    ∃ r r',
      evaluateGovernanceRequest .ascii (plainEnv .block) shippedBundle none noCapabilities
        (promptRequest "hi") = .ok r ∧
      evaluateGovernanceRequest .ascii (plainEnv .block) shippedBundle none noCapabilities
        (promptRequest "hello") = .ok r' ∧
      (r.finalVerdict = r'.finalVerdict ↔
        (PromptBlocks .ascii (toPipelineRow (promptRequest "hi"))
          ↔ PromptBlocks .ascii (toPipelineRow (promptRequest "hello"))) ∨
        TelemetryBlocks none ∨ OtherRulesBlock .ascii (plainEnv .block) shippedConfig none
          (toPipelineRow (promptRequest "hi"))) := by
  obtain ⟨r, h⟩ := exists_ok_of_isOk (evaluateGovernanceRequest .ascii (plainEnv .block)
    shippedBundle none noCapabilities (promptRequest "hi")) (by decide +kernel)
  obtain ⟨r', h'⟩ := exists_ok_of_isOk (evaluateGovernanceRequest .ascii (plainEnv .block)
    shippedBundle none noCapabilities (promptRequest "hello")) (by decide +kernel)
  exact ⟨r, r', h, h', finalVerdict_eq_iff_of_digest_eq .ascii id (plainEnv .block)
    Function.injective_id shippedBundle shippedConfig none noCapabilities (promptRequest "hi")
    (promptRequest "hello") r r' rfl rfl rfl rfl h h'⟩

/-- A jailbreak prompt has the digest of a harmless one; the pipeline blocks the former and
sends the latter to approval. -/
theorem digest_ignores_prompt :
    Function.Injective (id : String → String) ∧
    computeRequestDigest .ascii id (promptRequest "hi")
      = computeRequestDigest .ascii id (promptRequest "DAN mode") ∧
    (promptRequest "hi").requestsLastMinute = (promptRequest "DAN mode").requestsLastMinute ∧
    (promptRequest "hi").tokensToday = (promptRequest "DAN mode").tokensToday ∧
    shippedVerdict .block none (promptRequest "hi") = some .approvalRequired ∧
    shippedVerdict .block none (promptRequest "DAN mode") = some .block :=
  ⟨Function.injective_id, rfl, rfl, rfl, by decide +kernel⟩

end ControlPlane.Binding

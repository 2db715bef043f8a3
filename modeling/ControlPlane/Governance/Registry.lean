/-
# The model registry engine (`governance/registry/evaluate.py`, `signing.py`)

A registered model carries the namespaces, teams and data it may be used with,
a pinned artifact digest, a signature and a budget; every rule of the entry that
a request breaks forbids the request.  A model that is not registered is
reported but not forbidden.
-/
import ControlPlane.Request
import Mathlib.Tactic.Tauto

namespace ControlPlane.Registry

variable (py : PyRuntime) (env : EngineEnv)

/-! ## Attestation signatures -/

/-- `CANONICAL_FIELDS`. -/
def canonicalFields : List String := ["revision", "artifact_digest", "risk_tier", "license"]

/-- `str(entry.get(key, ""))`. -/
def text (entry : Entry) (key : String) : String := py.str (entry.getD key (.str ""))

/-- `canonical_payload`: the text that is signed. -/
def canonicalPayload (model : String) (entry : Entry) : String :=
  "|".intercalate (model :: canonicalFields.map (text py entry))

/-- `sign_entry`. -/
def signEntry (model : String) (entry : Entry) : String :=
  env.hmacSha256 (strip env.signingKey) (canonicalPayload py model entry)

/-- The stored signature of an entry, trimmed. -/
def storedSignature (entry : Entry) : String := strip (text py entry "attestation_signature")

/-- `hmac.compare_digest` on strings: it refuses non-ASCII text. -/
def compareDigest (a b : String) : Except PyError Bool :=
  if IsAscii a ∧ IsAscii b then .ok (a = b)
  else .error (.typeError "comparing strings with non-ASCII characters is not supported")

/-- `verify_entry_signature`. -/
def verifyEntrySignature (model : String) (entry : Entry) : Except PyError Bool :=
  if storedSignature py entry = "" then .ok false
  else compareDigest (storedSignature py entry) (signEntry py env model entry)

/-- What `attestation_status` tells the engine. -/
structure AttestationStatus where
  hasSignature : Bool
  verified : Option Bool
  deriving DecidableEq, Repr

/-- `attestation_status`. -/
def attestationStatus (model : String) (entry : Entry) : Except PyError AttestationStatus :=
  if storedSignature py entry = "" then .ok { hasSignature := false, verified := none }
  else do
    let verified ← verifyEntrySignature py env model entry
    return { hasSignature := true, verified := some verified }

/-! ## The policy of a model -/

/-- The result of `evaluate_model_policy`. -/
structure RegistryResult where
  knownModel : Option Bool
  forbidden : Bool
  reasons : List String
  riskTier : Option Scalar
  deriving DecidableEq, Repr

/-- The reason a model's digest gives against a request. -/
def digestMismatch (row : PipelineRow) (entry : Entry) : Prop :=
  strip (text py entry "artifact_digest") ≠ "" ∧ strip row.modelArtifactDigest ≠ ""
    ∧ strip row.modelArtifactDigest ≠ strip (text py entry "artifact_digest")

instance (row : PipelineRow) (entry : Entry) : Decidable (digestMismatch py row entry) :=
  inferInstanceAs (Decidable (_ ∧ _ ∧ _))

/-- The reasons of the signature check, when it is enabled. -/
def attestationReasons (row : PipelineRow) (entry : Entry) (attestation : AttestationStatus) :
    List String :=
  if env.registryVerify then
    if strip (text py entry "artifact_digest") ≠ "" ∧ attestation.hasSignature = false then
      ["model " ++ row.model ++ " is missing a registry attestation signature"]
    else
      reasonIf (attestation.hasSignature = true ∧ attestation.verified ≠ some true)
        ("model " ++ row.model ++ " has an invalid registry attestation signature")
  else []

/-- The reason of the model's own budget. -/
def budgetReasons (row : PipelineRow) (entry : Entry) : Except PyError (List String) :=
  match entry "max_monthly_budget_usd" with
  | none => .ok []
  | some b => do
    let budget ← py.float b
    return reasonIf (budget < row.forecastMonthlyCostUsd)
      ("forecast monthly cost " ++ py.reprFloat row.forecastMonthlyCostUsd
        ++ " exceeds model budget " ++ py.str b)

/-- The reasons that compare the request with the lists and flags of the entry. -/
def entryReasons (row : PipelineRow) (entry : Entry) : List String :=
  reasonIf (entry.truthy "forbidden")
    ("model " ++ row.model ++ " is forbidden in the risk registry")
  ++ reasonIf (entry.listExcludes "allowed_namespaces" row.namespace)
    ("namespace " ++ row.namespace ++ " is not allowed for model " ++ row.model)
  ++ reasonIf (row.sensitiveData = true ∧ entry.truthy "pii_allowed" = false)
    ("model " ++ row.model ++ " does not allow sensitive data")
  ++ reasonIf (entry.nonemptyListExcludes "allowed_teams" row.team)
    ("team " ++ row.team ++ " is not allowed to use model " ++ row.model)
  ++ reasonIf (digestMismatch py row entry)
    ("model artifact digest mismatch for " ++ row.model ++ " (expected "
      ++ strip (text py entry "artifact_digest") ++ ", got " ++ strip row.modelArtifactDigest
      ++ ")")

/-- Every reason comes with `forbidden = True`, so the flag is whether there is one. -/
def evaluateModelPolicy (row : PipelineRow) (registry : Dict Entry) :
    Except PyError RegistryResult :=
  match registry row.model with
  | none => .ok
      { knownModel := some false, forbidden := false,
        reasons := ["model " ++ row.model ++ " is not registered"], riskTier := none }
  | some entry => do
    let attestation ← attestationStatus py env row.model entry
    let overBudget ← budgetReasons py row entry
    let reasons := entryReasons py row entry ++ attestationReasons py env row entry attestation
      ++ overBudget
    return { knownModel := some true, forbidden := reasons ≠ [], reasons := reasons,
             riskTier := entry "risk_tier" }

/-! ## Sensitive data and larger forecasts forbid more -/

theorem entryReasons_mono {r₁ r₂ : PipelineRow} {entry : Entry} (hns : r₁.namespace = r₂.namespace)
    (hteam : r₁.team = r₂.team) (hdigest : r₁.modelArtifactDigest = r₂.modelArtifactDigest)
    (hsens : r₁.sensitiveData = true → r₂.sensitiveData = true)
    (h : entryReasons py r₁ entry ≠ []) : entryReasons py r₂ entry ≠ [] := by
  have hd : digestMismatch py r₁ entry → digestMismatch py r₂ entry := by
    unfold digestMismatch
    rw [hdigest]
    exact id
  unfold entryReasons at h ⊢
  rw [hns, hteam] at h
  simp only [append_reasonIf_ne_nil, reasonIf_ne_nil] at h ⊢
  rcases h with (((h | h) | ⟨hs, hp⟩) | h) | h
  · exact Or.inl (Or.inl (Or.inl (Or.inl h)))
  · exact Or.inl (Or.inl (Or.inl (Or.inr h)))
  · exact Or.inl (Or.inl (Or.inr ⟨hsens hs, hp⟩))
  · exact Or.inl (Or.inr h)
  · exact Or.inr (hd h)

theorem budgetReasons_mono {r₁ r₂ : PipelineRow} {entry : Entry} {b₁ b₂ : List String}
    (hforecast : r₁.forecastMonthlyCostUsd ≤ r₂.forecastMonthlyCostUsd)
    (h₁ : budgetReasons py r₁ entry = .ok b₁) (h₂ : budgetReasons py r₂ entry = .ok b₂)
    (h : b₁ ≠ []) : b₂ ≠ [] := by
  unfold budgetReasons at h₁ h₂
  cases hb : entry "max_monthly_budget_usd" with
  | none =>
    simp only [hb, Except.ok.injEq] at h₁
    exact absurd h₁.symm h
  | some b =>
    simp only [hb, bind_eq_ok, pure_eq_ok] at h₁ h₂
    obtain ⟨q, hq, rfl⟩ := h₁
    obtain ⟨q', hq', rfl⟩ := h₂
    rw [hq, Except.ok.injEq] at hq'
    subst hq'
    rw [reasonIf_ne_nil] at h ⊢
    exact h.trans_le hforecast

/-- **The registry forbids at least as much** when sensitive data is added or the
forecast grows. -/
theorem evaluateModelPolicy_mono {r₁ r₂ : PipelineRow} {registry : Dict Entry}
    {g₁ g₂ : RegistryResult} (hmodel : r₁.model = r₂.model)
    (hns : r₁.namespace = r₂.namespace) (hteam : r₁.team = r₂.team)
    (hdigest : r₁.modelArtifactDigest = r₂.modelArtifactDigest)
    (hsens : r₁.sensitiveData = true → r₂.sensitiveData = true)
    (hforecast : r₁.forecastMonthlyCostUsd ≤ r₂.forecastMonthlyCostUsd)
    (h₁ : evaluateModelPolicy py env r₁ registry = .ok g₁)
    (h₂ : evaluateModelPolicy py env r₂ registry = .ok g₂)
    (hf : g₁.forbidden = true) : g₂.forbidden = true := by
  unfold evaluateModelPolicy at h₁ h₂
  rw [hmodel] at h₁
  cases hentry : registry r₂.model with
  | none =>
    simp only [hentry, Except.ok.injEq] at h₁
    subst h₁
    exact absurd hf Bool.false_ne_true
  | some entry =>
    simp only [hentry] at h₁ h₂
    rw [bind_eq_ok] at h₁ h₂
    obtain ⟨a₁, ha₁, h₁⟩ := h₁
    obtain ⟨a₂, ha₂, h₂⟩ := h₂
    rw [ha₁, Except.ok.injEq] at ha₂
    subst ha₂
    rw [bind_eq_ok] at h₁ h₂
    obtain ⟨b₁, hb₁, h₁⟩ := h₁
    obtain ⟨b₂, hb₂, h₂⟩ := h₂
    rw [pure_eq_ok] at h₁ h₂
    subst h₁ h₂
    have hatt : attestationReasons py env r₁ entry a₁ = attestationReasons py env r₂ entry a₁ := by
      unfold attestationReasons
      rw [hmodel]
    simp only [decide_eq_true_eq, ne_eq, List.append_eq_nil_iff, not_and_or] at hf ⊢
    rcases hf with (hf | hf) | hf
    · exact Or.inl (Or.inl (entryReasons_mono py hns hteam hdigest hsens hf))
    · exact Or.inl (Or.inr (hatt ▸ hf))
    · exact Or.inr (budgetReasons_mono py hforecast hb₁ hb₂ hf)

end ControlPlane.Registry

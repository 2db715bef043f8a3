/-
# Simulating a bundle (`PolicyLifecycle.simulate`)

A candidate bundle is evaluated on the stored requests, and each decision moves one counter
of the impact.  The counters partition the decisions with a request
(`simulate_counts`); a request that cannot be evaluated counts as another change, although
it is not among the evaluated decisions.
-/
import ControlPlane.Governance.Pipeline
import ControlPlane.PolicyLifecycle

namespace ControlPlane

/-! ## The impact -/

/-- The fields of a stored decision that a simulation reads. -/
structure StoredDecision where
  decisionId : String
  finalVerdict : String
  team : String
  model : String
  /-- `request_json`, read back -/
  request : List (String × Json.Value)
  createdAt : String

/-- A changed decision among the samples. -/
structure SampleChange where
  decisionId : String
  before : String
  after : String
  team : String
  model : String
  deriving DecidableEq, Repr

/-- `BundleImpact`. -/
structure BundleImpact where
  bundleId : String
  contentDigest : String
  evaluatedDecisions : ℕ := 0
  unchanged : ℕ := 0
  allowToBlock : ℕ := 0
  allowToApproval : ℕ := 0
  blockToAllow : ℕ := 0
  approvalToAllow : ℕ := 0
  approvalToBlock : ℕ := 0
  otherChanges : ℕ := 0
  sampleChanges : List SampleChange := []

/-- `impact.sample_changes.append` while there are fewer than 20. -/
def BundleImpact.sample (impact : BundleImpact) (record : StoredDecision) (after : String) :
    BundleImpact :=
  if impact.sampleChanges.length < 20 then
    { impact with
      sampleChanges := impact.sampleChanges ++
        [{ decisionId := record.decisionId, before := record.finalVerdict, after := after,
           team := record.team, model := record.model }] }
  else impact

/-- The counter of a change, found by its key. -/
def BundleImpact.change (impact : BundleImpact) (key : String) : BundleImpact :=
  if key = "allow->block" then { impact with allowToBlock := impact.allowToBlock + 1 }
  else if key = "allow->approval_required" then
    { impact with allowToApproval := impact.allowToApproval + 1 }
  else if key = "block->allow" then { impact with blockToAllow := impact.blockToAllow + 1 }
  else if key = "approval_required->allow" then
    { impact with approvalToAllow := impact.approvalToAllow + 1 }
  else if key = "approval_required->block" then
    { impact with approvalToBlock := impact.approvalToBlock + 1 }
  else { impact with otherChanges := impact.otherChanges + 1 }

/-- An evaluated decision. -/
def BundleImpact.evaluated (impact : BundleImpact) (record : StoredDecision) (after : String) :
    BundleImpact :=
  let impact := { impact with evaluatedDecisions := impact.evaluatedDecisions + 1 }
  if record.finalVerdict = after then { impact with unchanged := impact.unchanged + 1 }
  else (impact.change (record.finalVerdict ++ "->" ++ after)).sample record after

/-! ## The loop -/

section Simulation

variable (py : PyRuntime) (env : EngineEnv)
  /- `GovernanceEvaluateRequest.model_validate` -/
  (modelValidate : List (String × Json.Value) → Except PyError GovernanceEvaluateRequest)
  /- what the store answers for the capabilities while the n-th record is evaluated -/
  (capabilities : ℕ → String → String → Except PyError (String × String))
  (candidate : PolicyBundle)

/-- The verdict of the candidate for the `n`-th record; there is no telemetry. -/
def evaluateStored (record : StoredDecision) (n : ℕ) : Except PyError Verdict := do
  let request ← modelValidate record.request
  let result ← evaluateGovernanceRequest py env candidate none (capabilities n) request
  return result.finalVerdict

/-- The body of the loop, for one record. -/
def simulateStep (impact : BundleImpact) (record : StoredDecision × ℕ) : BundleImpact :=
  if record.1.request = [] then impact
  else
    match evaluateStored py env modelValidate capabilities candidate record.1 record.2 with
    | .error _ => { impact with otherChanges := impact.otherChanges + 1 }
    | .ok after => impact.evaluated record.1 after.name

/-- `list_recent_decisions`. -/
def listRecentDecisions (decisions : List StoredDecision) (limit : ℤ) : List StoredDecision :=
  (decisions.insertionSort (fun a b => b.createdAt ≤ a.createdAt)).take
    (max 1 (min limit 5000)).toNat

/-- The impact of a candidate over a list of records. -/
def simulateRecords (records : List StoredDecision) : BundleImpact :=
  records.zipIdx.foldl (simulateStep py env modelValidate capabilities candidate)
    { bundleId := candidate.bundleId, contentDigest := candidate.contentDigest }

/-- `simulate`; `found` is what `get_candidate` returns. -/
def simulate (bundleId : String) (found : Option PolicyBundle)
    (decisions : List StoredDecision) (limit : ℤ) : Except PyError BundleImpact :=
  match found with
  | none => .error (.keyError ("validated policy bundle not found: " ++ bundleId))
  | some candidate =>
    if ¬ candidate.isValid then
      .error (.keyError ("validated policy bundle not found: " ++ bundleId))
    else
      .ok (simulateRecords py env modelValidate capabilities candidate
        (listRecentDecisions decisions limit))

end Simulation

/-! ## The counters -/

/-- The counters among which the decisions are divided. -/
inductive Counter where
  | unchanged
  | allowToBlock
  | allowToApproval
  | blockToAllow
  | approvalToAllow
  | approvalToBlock
  | otherChanges
  deriving DecidableEq, Repr

/-- The value of a counter. -/
def BundleImpact.count (impact : BundleImpact) : Counter → ℕ
  | .unchanged => impact.unchanged
  | .allowToBlock => impact.allowToBlock
  | .allowToApproval => impact.allowToApproval
  | .blockToAllow => impact.blockToAllow
  | .approvalToAllow => impact.approvalToAllow
  | .approvalToBlock => impact.approvalToBlock
  | .otherChanges => impact.otherChanges

/-- The sum of the counters. -/
def BundleImpact.total (impact : BundleImpact) : ℕ :=
  impact.unchanged + impact.allowToBlock + impact.allowToApproval + impact.blockToAllow +
    impact.approvalToAllow + impact.approvalToBlock + impact.otherChanges

/-- The counter of a changed verdict. -/
def Counter.ofKey (key : String) : Counter :=
  if key = "allow->block" then .allowToBlock
  else if key = "allow->approval_required" then .allowToApproval
  else if key = "block->allow" then .blockToAllow
  else if key = "approval_required->allow" then .approvalToAllow
  else if key = "approval_required->block" then .approvalToBlock
  else .otherChanges

@[simp] theorem BundleImpact.count_sample (impact : BundleImpact) (record : StoredDecision)
    (after : String) (c : Counter) : (impact.sample record after).count c = impact.count c := by
  unfold BundleImpact.sample
  split <;> cases c <;> rfl

@[simp] theorem BundleImpact.evaluatedDecisions_sample (impact : BundleImpact)
    (record : StoredDecision) (after : String) :
    (impact.sample record after).evaluatedDecisions = impact.evaluatedDecisions := by
  unfold BundleImpact.sample
  split <;> rfl

/-- A key moves its counter and no other. -/
theorem BundleImpact.count_change (impact : BundleImpact) (key : String) (c : Counter) :
    (impact.change key).count c = impact.count c + if Counter.ofKey key = c then 1 else 0 := by
  unfold BundleImpact.change Counter.ofKey
  split_ifs <;> cases c <;> simp_all [BundleImpact.count]

theorem BundleImpact.evaluatedDecisions_change (impact : BundleImpact) (key : String) :
    (impact.change key).evaluatedDecisions = impact.evaluatedDecisions := by
  unfold BundleImpact.change
  split_ifs <;> rfl

section Counting

variable (py : PyRuntime) (env : EngineEnv)
  (modelValidate : List (String × Json.Value) → Except PyError GovernanceEvaluateRequest)
  (capabilities : ℕ → String → String → Except PyError (String × String))
  (candidate : PolicyBundle)

/-- The counter that a record moves, none for a record without a request. -/
def counterOf (record : StoredDecision × ℕ) : Option Counter :=
  if record.1.request = [] then none
  else
    match evaluateStored py env modelValidate capabilities candidate record.1 record.2 with
    | .error _ => some .otherChanges
    | .ok after =>
      if record.1.finalVerdict = after.name then some .unchanged
      else some (Counter.ofKey (record.1.finalVerdict ++ "->" ++ after.name))

/-- `bool(record.request)`. -/
def hasRequest (record : StoredDecision × ℕ) : Bool := record.1.request ≠ []

theorem hasRequest_eq_false {record : StoredDecision × ℕ} (h : record.1.request = []) :
    hasRequest record = false := by simp [hasRequest, h]

theorem hasRequest_eq_true {record : StoredDecision × ℕ} (h : record.1.request ≠ []) :
    hasRequest record = true := by simp [hasRequest, h]

/-- The record has a request that does not validate, or whose evaluation raises. -/
def failsReplay (record : StoredDecision × ℕ) : Bool :=
  hasRequest record &&
    ! (evaluateStored py env modelValidate capabilities candidate record.1 record.2).isOk

/-- The record has a request that is evaluated. -/
def isEvaluated (record : StoredDecision × ℕ) : Bool :=
  hasRequest record &&
    (evaluateStored py env modelValidate capabilities candidate record.1 record.2).isOk

theorem counterOf_eq_none_iff (record : StoredDecision × ℕ) :
    counterOf py env modelValidate capabilities candidate record = none ↔
      record.1.request = [] := by
  unfold counterOf
  constructor
  · intro h
    by_contra hne
    simp only [hne, if_false] at h
    split at h
    · simp at h
    · split at h <;> simp at h
  · intro h
    simp only [h, if_true]

/-- One round moves the counter of its record by one and no other. -/
theorem count_simulateStep (impact : BundleImpact) (record : StoredDecision × ℕ) (c : Counter) :
    (simulateStep py env modelValidate capabilities candidate impact record).count c =
      impact.count c +
        if counterOf py env modelValidate capabilities candidate record = some c then 1
        else 0 := by
  unfold simulateStep counterOf
  by_cases hempty : record.1.request = []
  · simp [hempty]
  · simp only [hempty, if_false]
    cases evaluateStored py env modelValidate capabilities candidate record.1 record.2 with
    | error e => cases c <;> simp [BundleImpact.count]
    | ok after =>
        simp only
        unfold BundleImpact.evaluated
        by_cases hsame : record.1.finalVerdict = after.name
        · simp only [hsame, if_true]
          cases c <;> simp [BundleImpact.count]
        · simp only [hsame, if_false, BundleImpact.count_sample, BundleImpact.count_change,
            Option.some.injEq]
          cases c <;> rfl

/-- One round evaluates its record or not. -/
theorem evaluatedDecisions_simulateStep (impact : BundleImpact) (record : StoredDecision × ℕ) :
    (simulateStep py env modelValidate capabilities candidate impact record).evaluatedDecisions =
      impact.evaluatedDecisions +
        if isEvaluated py env modelValidate capabilities candidate record then 1 else 0 := by
  unfold simulateStep isEvaluated
  by_cases hempty : record.1.request = []
  · simp [hempty, hasRequest_eq_false hempty]
  · simp only [hempty, if_false, hasRequest_eq_true hempty, Bool.true_and]
    cases evaluateStored py env modelValidate capabilities candidate record.1 record.2 with
    | error e => rfl
    | ok after =>
        have hok : (Except.ok after : Except PyError Verdict).isOk = true := rfl
        simp only [hok, if_true]
        unfold BundleImpact.evaluated
        by_cases hsame : record.1.finalVerdict = after.name
        · simp only [hsame, if_true]
        · simp only [hsame, if_false, BundleImpact.evaluatedDecisions_sample,
            BundleImpact.evaluatedDecisions_change]

/-- The run over the records that are left. -/
theorem count_foldl_simulateStep (impact : BundleImpact) (records : List (StoredDecision × ℕ))
    (c : Counter) :
    (records.foldl (simulateStep py env modelValidate capabilities candidate) impact).count c =
      impact.count c + records.countP
        (fun r => counterOf py env modelValidate capabilities candidate r = some c) := by
  induction records generalizing impact with
  | nil => simp
  | cons record records ih =>
      rw [List.foldl_cons, ih, count_simulateStep, List.countP_cons]
      by_cases h : counterOf py env modelValidate capabilities candidate record = some c
      · simp only [h, if_true, decide_true]
        omega
      · simp only [h, if_false, decide_false, Bool.false_eq_true]
        omega

theorem evaluatedDecisions_foldl_simulateStep (impact : BundleImpact)
    (records : List (StoredDecision × ℕ)) :
    (records.foldl (simulateStep py env modelValidate capabilities candidate)
        impact).evaluatedDecisions =
      impact.evaluatedDecisions +
        records.countP (isEvaluated py env modelValidate capabilities candidate) := by
  induction records generalizing impact with
  | nil => simp
  | cons record records ih =>
      rw [List.foldl_cons, ih, evaluatedDecisions_simulateStep, List.countP_cons]
      omega

theorem total_eq (impact : BundleImpact) :
    impact.total = impact.count .unchanged + impact.count .allowToBlock +
      impact.count .allowToApproval + impact.count .blockToAllow +
      impact.count .approvalToAllow + impact.count .approvalToBlock +
      impact.count .otherChanges := rfl

/-- Each record has at most one counter, and exactly one when it has a request. -/
theorem sum_countP_counterOf (records : List (StoredDecision × ℕ)) :
    let moved := fun c => records.countP
      (fun r => counterOf py env modelValidate capabilities candidate r = some c)
    moved .unchanged + moved .allowToBlock + moved .allowToApproval + moved .blockToAllow +
        moved .approvalToAllow + moved .approvalToBlock + moved .otherChanges =
      records.countP hasRequest := by
  induction records with
  | nil => rfl
  | cons record records ih =>
      simp only [List.countP_cons] at ih ⊢
      have hnone := counterOf_eq_none_iff py env modelValidate capabilities candidate record
      cases hc : counterOf py env modelValidate capabilities candidate record with
      | none =>
          simp only [hasRequest_eq_false (hnone.mp hc), reduceCtorEq, decide_false,
            Bool.false_eq_true, if_false]
          omega
      | some c =>
          have hne : record.1.request ≠ [] := by
            intro h
            rw [hnone.mpr h] at hc
            simp at hc
          simp only [hasRequest_eq_true hne, if_true, Option.some.injEq]
          cases c <;>
            simp only [reduceCtorEq, decide_false, decide_true, Bool.false_eq_true, if_false,
              if_true] <;>
            omega

/-- The decisions with a request are the evaluated ones and the ones that fail. -/
theorem countP_isEvaluated_add (records : List (StoredDecision × ℕ)) :
    records.countP (isEvaluated py env modelValidate capabilities candidate) +
        records.countP (failsReplay py env modelValidate capabilities candidate) =
      records.countP hasRequest := by
  induction records with
  | nil => rfl
  | cons record records ih =>
      rw [List.countP_cons, List.countP_cons, List.countP_cons, ← ih]
      have hone : (if isEvaluated py env modelValidate capabilities candidate record = true
            then 1 else 0) +
          (if failsReplay py env modelValidate capabilities candidate record = true
            then 1 else 0) =
          if hasRequest record = true then 1 else 0 := by
        unfold isEvaluated failsReplay
        obtain ⟨ok, hok⟩ : ∃ ok, (evaluateStored py env modelValidate capabilities candidate
          record.1 record.2).isOk = ok := ⟨_, rfl⟩
        rw [hok]
        cases hasRequest record <;> cases ok <;> rfl
      omega

/-- **The counters partition the decisions.**  In every impact that a simulation reports,
each counter is the number of the decisions that move it; a decision moves one counter when
it has a request, and none otherwise; and the counters add up to the evaluated decisions
and those whose request fails to validate or to be evaluated. -/
theorem simulate_counts (bundleId : String) (decisions : List StoredDecision) (limit : ℤ)
    (impact : BundleImpact)
    (h : simulate py env modelValidate capabilities bundleId (some candidate) decisions limit =
      .ok impact) :
    let records := (listRecentDecisions decisions limit).zipIdx
    impact.evaluatedDecisions +
          records.countP (failsReplay py env modelValidate capabilities candidate) =
        impact.total ∧
      impact.total = records.countP hasRequest ∧
      (∀ c, impact.count c = records.countP
        (fun r => counterOf py env modelValidate capabilities candidate r = some c)) ∧
      ∀ r, counterOf py env modelValidate capabilities candidate r = none ↔
        r.1.request = [] := by
  have himpact : impact = simulateRecords py env modelValidate capabilities candidate
      (listRecentDecisions decisions limit) := by
    unfold simulate at h
    simp only at h
    split at h
    · simp at h
    · exact (Except.ok.inj h).symm
  intro records
  have hcount : ∀ c, impact.count c = records.countP
      (fun r => counterOf py env modelValidate capabilities candidate r = some c) := by
    intro c
    rw [himpact]
    unfold simulateRecords
    rw [count_foldl_simulateStep]
    have hzero : BundleImpact.count
        { bundleId := candidate.bundleId, contentDigest := candidate.contentDigest } c = 0 := by
      cases c <;> rfl
    rw [hzero, Nat.zero_add]
  have hevaluated : impact.evaluatedDecisions =
      records.countP (isEvaluated py env modelValidate capabilities candidate) := by
    rw [himpact]
    unfold simulateRecords
    rw [evaluatedDecisions_foldl_simulateStep, Nat.zero_add]
  have htotal : impact.total = records.countP hasRequest := by
    rw [total_eq]
    simp only [hcount]
    exact sum_countP_counterOf py env modelValidate capabilities candidate records
  refine ⟨?_, htotal, hcount, counterOf_eq_none_iff py env modelValidate capabilities candidate⟩
  rw [htotal, hevaluated]
  exact countP_isEvaluated_add py env modelValidate capabilities candidate records

end Counting

/-- The validation of a request whose only field is its number of input tokens. -/
def validateTokens (raw : List (String × Json.Value)) :
    Except PyError GovernanceEvaluateRequest :=
  match raw.lookup "input_tokens" with
  | some (.int n) => .ok { inputTokens := n }
  | none => .ok {}
  | some _ => .error (.valueError "Input should be a valid integer")

/-- A decision whose stored request holds the given number of tokens. -/
def storedTokens (decisionId : String) (tokens : Json.Value) : StoredDecision where
  decisionId := decisionId
  finalVerdict := "allow"
  team := "platform"
  model := "llama3.1:8b"
  request := [("input_tokens", tokens)]
  createdAt := "2026-01-01T00:00:00+00:00"

/-- A decision whose request is rejected, and one that has none. -/
def twoDecisions : List StoredDecision :=
  [storedTokens "d2" (.str "many"), { storedTokens "d1" .null with request := [] }]

/-- Their simulation counts the first one, among the other changes. -/
theorem simulate_counts_two : ∃ impact : BundleImpact,
    simulate .ascii (plainEnv .allow) validateTokens (fun _ => noCapabilities) "bundle"
        (some shippedBundle) twoDecisions 200 = .ok impact ∧
      impact.evaluatedDecisions + 1 = impact.total ∧ impact.total = 1 ∧
      impact.count .otherChanges = 1 := by
  obtain ⟨impact, himpact⟩ : ∃ impact, simulate .ascii (plainEnv .allow) validateTokens
      (fun _ => noCapabilities) "bundle" (some shippedBundle) twoDecisions 200 = .ok impact :=
    ⟨_, rfl⟩
  obtain ⟨hsum, htotal, hcount, -⟩ := simulate_counts .ascii (plainEnv .allow) validateTokens
    (fun _ => noCapabilities) shippedBundle "bundle" twoDecisions 200 impact himpact
  have hfails : (listRecentDecisions twoDecisions 200).zipIdx.countP
      (failsReplay .ascii (plainEnv .allow) validateTokens (fun _ => noCapabilities)
        shippedBundle) = 1 := by decide
  have hrequests : (listRecentDecisions twoDecisions 200).zipIdx.countP hasRequest = 1 := by
    decide
  have hother : (listRecentDecisions twoDecisions 200).zipIdx.countP (fun r =>
      counterOf .ascii (plainEnv .allow) validateTokens (fun _ => noCapabilities) shippedBundle r
        = some .otherChanges) = 1 := by decide
  rw [hfails] at hsum
  rw [hrequests] at htotal
  exact ⟨impact, himpact, hsum, htotal, (hcount .otherChanges).trans hother⟩

/-- A stored request that does not validate counts as a change of a decision that is not
evaluated. -/
theorem simulate_counts_differ : ∃ impact,
    simulate .ascii (plainEnv .allow) validateTokens (fun _ => noCapabilities) "bundle"
        (some shippedBundle) [storedTokens "d2" (.str "many")] 200 = .ok impact ∧
      impact.evaluatedDecisions ≠ impact.total := by
  refine ⟨_, rfl, ?_⟩
  decide

end ControlPlane

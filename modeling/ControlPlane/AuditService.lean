/-
# The stage that an audit event blames (`app/audit_service.py`)

The audit trail derives the blocking stage of a response from the summary of its stages,
while the verdict was decided by the rules of `final_verdict`.  The two agree on every block
of a stage.  An approval that the quota or the policy pack asks for is blamed on a later
stage, and so is a block of the telemetry behind a critical risk.
-/
import ControlPlane.Governance.Pipeline

open Precedence

namespace ControlPlane

/-! ## The stage that is named -/

/-- The stages that are searched for a block, in their order. -/
def blockingStages : List String :=
  ["policy_pack", "prompt_security", "agent", "quota", "registry", "sovereign", "cost", "approval"]

/-- `response.stages.get(name)` has the decision. -/
def stageDecides (response : GovernanceEvaluateResponse) (name : String)
    (decision : StageDecision) : Bool :=
  (response.stages.lookup name).elim false (fun stage => stage.decision = some decision)

/-- The reported risk is critical. -/
def riskCritical (response : GovernanceEvaluateResponse) : Bool :=
  (response.stages.lookup "risk").elim false (fun stage => stage.level = some .critical)

/-- `blocking_stage_from_response`: the stage that the audit event names. -/
def blockingStageFromResponse (response : GovernanceEvaluateResponse) : Option String :=
  if response.finalVerdict = .allow then none
  else (blockingStages.find? (stageDecides response · .block)).or <|
    if riskCritical response then some "risk"
    else if response.finalVerdict = .approvalRequired then
      if stageDecides response "approval" .approvalRequired then some "approval"
      else if stageDecides response "cost" .warn then some "cost"
      else some "approval"
    else none

/-! ## The stage that decided -/

namespace StageResults

variable (s : StageResults)

/-- The rules of `final_verdict` with the stage each belongs to. -/
def rulesByStage : List (String × Rule Verdict (List String)) :=
  blockingStages.zip s.rules
    ++ ["quota", "policy_pack", "risk", "approval", "cost"].zip (s.rules.drop 8)

/-- The rule that decided the verdict. -/
def decidingRule : Option (String × Rule Verdict (List String)) :=
  s.rulesByStage.find? (fun p => p.2.fires)

end StageResults

/-- The response names the stage whose rule decided its verdict and gave its reasons; a block
that only the telemetry caused is not blamed on the approval or the risk. -/
def NamesDecidingStage (telemetry : Option GovernanceTelemetryStage) (s : StageResults)
    (response : GovernanceEvaluateResponse) : Prop :=
  (¬ TelemetryBlocks telemetry → response.finalVerdict ≠ .allow →
    ∃ stage rule, s.decidingRule = some (stage, rule) ∧
      blockingStageFromResponse response = some stage ∧
      response.finalVerdict = rule.verdict ∧ response.reasons = rule.payload) ∧
  (TelemetryBlocks telemetry → ¬ s.Blocked →
    blockingStageFromResponse response ≠ some "approval" ∧
      blockingStageFromResponse response ≠ some "risk")

/-! ## What the summary tells -/

section Summary

variable {s : StageResults} {bundle : PolicyBundle} {telemetry : Option GovernanceTelemetryStage}
  {digests : String × String}

theorem find?_of_map_eq {β γ : Type} {names : List β} {rules : List γ} {p : β → Bool}
    {q : γ → Bool} (h : names.map p = rules.map q) :
    names.find? p = ((names.zip rules).find? (fun x => q x.2)).map Prod.fst := by
  induction names generalizing rules with
  | nil => rfl
  | cons name names ih =>
    cases rules with
    | nil => cases h
    | cons rule rules =>
      rw [List.map_cons, List.map_cons, List.cons.injEq] at h
      rw [List.find?_cons, List.zip_cons_cons, List.find?_cons, h.1]
      cases q rule with
      | true => rfl
      | false => exact ih h.2

/-- The summary reports a block of a stage exactly when the rule of the stage fires. -/
theorem stageDecides_block (s : StageResults) (bundle : PolicyBundle)
    (telemetry : Option GovernanceTelemetryStage) (digests : String × String) :
    blockingStages.map (stageDecides (respond bundle telemetry s digests) · .block)
      = (s.rules.take 8).map Rule.fires := by
  have hpack : (packStage s).decision = some .block ↔ s.packPre.decision = .block := by
    unfold packStage
    split_ifs with h
    · simp [h.1]
    · simp
  have hforbidden : ∀ b : Bool, (forbiddenDecision b = .block) = (b = true) := by
    intro b
    cases b <;> simp [forbiddenDecision]
  simp [blockingStages, stageDecides, respond, stageReport, StageResults.rules, hpack, hforbidden,
    List.lookup_cons]

theorem riskCritical_respond : riskCritical (respond bundle telemetry s digests)
    = decide (s.risk.level = .critical) := by
  simp [riskCritical, respond, stageReport, List.lookup_cons]

theorem approvalAsks_respond :
    stageDecides (respond bundle telemetry s digests) "approval" .approvalRequired
      = decide (s.approval.decision = .approvalRequired) := by
  simp [stageDecides, respond, stageReport, List.lookup_cons]

theorem costWarns_respond :
    stageDecides (respond bundle telemetry s digests) "cost" .warn
      = decide (s.cost.decision = .warn) := by
  simp [stageDecides, respond, stageReport, List.lookup_cons]

/-- A block of a stage is blamed on the first stage that blocks. -/
theorem decidingRule_of_blocked (s : StageResults) (bundle : PolicyBundle)
    (telemetry : Option GovernanceTelemetryStage) (digests : String × String) :
    blockingStages.find? (stageDecides (respond bundle telemetry s digests) · .block)
      = ((blockingStages.zip s.rules).find? (fun p => p.2.fires)).map Prod.fst := by
  have hzip : blockingStages.zip s.rules = blockingStages.zip (s.rules.take 8) := rfl
  rw [hzip]
  exact find?_of_map_eq (stageDecides_block s bundle telemetry digests)

/-- A stage blocks exactly when one of the first rules fires. -/
theorem find?_blocking_eq_none_iff (s : StageResults) :
    (blockingStages.zip s.rules).find? (fun p => p.2.fires) = none ↔ ¬ s.Blocked := by
  simp [blockingStages, StageResults.rules, StageResults.Blocked, List.find?_eq_none]

/-- The verdict and the reasons are those of the deciding rule. -/
theorem finalVerdict_of_decidingRule {stage : String} {rule : Rule Verdict (List String)}
    (h : s.decidingRule = some (stage, rule)) :
    finalVerdict s = (rule.verdict, rule.payload) := by
  have hrules : s.rulesByStage.map Prod.snd = s.rules := rfl
  have hfind : ∀ (l : List (String × Rule Verdict (List String))) (d : Verdict × List String),
      l.find? (fun p => p.2.fires) = some (stage, rule) →
      firstMatch (l.map Prod.snd) d = (rule.verdict, rule.payload) := by
    intro l d
    induction l with
    | nil => exact fun hl => by cases hl
    | cons p l ih =>
      intro hl
      rw [List.find?_cons] at hl
      rw [List.map_cons, firstMatch]
      cases hp : p.2.fires with
      | true =>
        rw [hp, Option.some_inj] at hl
        rw [if_pos rfl, hl]
      | false =>
        rw [hp] at hl
        rw [if_neg Bool.false_ne_true]
        exact ih hl
  rw [StageResults.finalVerdict_eq_firstMatch, ← hrules]
  exact hfind _ _ h

end Summary

/-! ## When the blame is right -/

section Blame

variable {py : PyRuntime} {env : EngineEnv} {config : PolicyConfig}
  {telemetry : Option GovernanceTelemetryStage} {row : PipelineRow} {s : StageResults}

variable (py) in
/-- The risk of the row is critical. -/
def RiskIsCritical (config : PolicyConfig) (row : PipelineRow) : Prop :=
  Yields (Risk.evaluateRequest py row config.riskRules config.registry)
    (fun risk => risk.level = .critical)

variable (py) in
/-- The policy pack of the row asks for approval at its risk. -/
def PackAsks (config : PolicyConfig) (row : PipelineRow) : Prop :=
  Yields (Risk.evaluateRequest py row config.riskRules config.registry)
    (fun risk => PolicyPack.Asks py row config.packs (some risk.level))

variable (py env) in
/-- What leads the audit trail astray when no engine blocks: behind a block of the telemetry
a critical risk, and otherwise an approval that the quota or the policy pack asks for. -/
def Misleads (config : PolicyConfig) (telemetry : Option GovernanceTelemetryStage)
    (row : PipelineRow) : Prop :=
  if TelemetryBlocks telemetry then RiskIsCritical py config row
  else (quotaUnavailable telemetry = true ∧ env.quotaOnUnavailable = .approvalRequired)
    ∨ PackAsks py config row

/-- The rules that ask, in their order, after those that block. -/
theorem decidingRule_of_not_blocked (hb : ¬ s.Blocked) : s.decidingRule
    = ((["quota", "policy_pack", "risk", "approval", "cost"].zip (s.rules.drop 8)).find?
        (fun p => p.2.fires)) := by
  unfold StageResults.decidingRule StageResults.rulesByStage
  rw [List.find?_append, (find?_blocking_eq_none_iff s).mpr hb, Option.none_or]

/-- The stage that is named when no stage blocks. -/
theorem blockingStage_of_not_blocked (hb : ¬ s.Blocked) (bundle : PolicyBundle)
    (digests : String × String) :
    blockingStageFromResponse (respond bundle telemetry s digests)
      = if (judge telemetry s).1 = .allow then none
        else if s.risk.level = .critical then some "risk"
        else if (judge telemetry s).1 = .approvalRequired then
          if s.approval.decision = .approvalRequired then some "approval"
          else if s.cost.decision = .warn then some "cost" else some "approval"
        else none := by
  unfold blockingStageFromResponse
  rw [decidingRule_of_blocked, (find?_blocking_eq_none_iff s).mpr hb, riskCritical_respond,
    approvalAsks_respond, costWarns_respond]
  simp only [Option.map_none, Option.none_or, decide_eq_true_eq]
  rfl

/-- The stage of the deciding rule when no stage blocks. -/
theorem decidingStage_of_not_blocked (hb : ¬ s.Blocked) : s.decidingRule.map Prod.fst
    = if s.quota.decision = .approvalRequired then some "quota"
      else if s.packPost.decision = .approvalRequired then some "policy_pack"
      else if s.risk.level = .critical then some "risk"
      else if s.approval.decision = .approvalRequired then some "approval"
      else if s.cost.decision = .warn then some "cost" else none := by
  rw [decidingRule_of_not_blocked hb]
  simp only [StageResults.rules, List.drop_succ_cons, List.drop_zero, List.zip_cons_cons,
    List.zip_nil_right, List.find?_cons]
  by_cases hquota : s.quota.decision = .approvalRequired
  · simp only [hquota, decide_true, if_true, Option.map_some]
  by_cases hpack : s.packPost.decision = .approvalRequired
  · simp only [hquota, hpack, decide_true, decide_false, if_true, if_false, Option.map_some]
  by_cases hrisk : s.risk.level = .critical
  · simp only [hquota, hpack, hrisk, decide_true, decide_false, if_true, if_false, Option.map_some]
  by_cases happroval : s.approval.decision = .approvalRequired
  · simp only [hquota, hpack, hrisk, happroval, decide_true, decide_false, if_true, if_false,
      Option.map_some]
  by_cases hcost : s.cost.decision = .warn
  · simp only [hquota, hpack, hrisk, happroval, hcost, decide_true, decide_false, if_true,
      if_false, Option.map_some]
  · simp only [hquota, hpack, hrisk, happroval, hcost, decide_false, if_false, List.find?_nil,
      Option.map_none]

/-- Without a block of the telemetry a verdict that does not allow is the rules' own. -/
theorem judge_of_ne_allow (ht : ¬ TelemetryBlocks telemetry) (hv : (finalVerdict s).1 ≠ .allow) :
    judge telemetry s = finalVerdict s := by
  rcases hf : finalVerdict s with ⟨verdict, reasons⟩
  rw [hf] at hv
  unfold judge
  simp only [hf]
  refine (if_neg ht).trans ?_
  rw [if_neg (fun h => hv h.1)]

/-- Some rule decided a verdict that does not allow. -/
theorem exists_decidingRule (hv : (finalVerdict s).1 ≠ .allow) :
    ∃ stage rule, s.decidingRule = some (stage, rule) := by
  cases hd : s.decidingRule with
  | some p => exact ⟨p.1, p.2, rfl⟩
  | none =>
    have hnone : ∀ p ∈ s.rulesByStage, ¬ p.2.fires = true := List.find?_eq_none.mp hd
    have hfires : ∀ r ∈ s.rules, r.fires = true → r.verdict ≤ ⊥ := by
      intro r hr hfires
      have hrules : s.rulesByStage.map Prod.snd = s.rules := rfl
      rw [← hrules] at hr
      obtain ⟨p, hp, rfl⟩ := List.mem_map.mp hr
      exact absurd hfires (hnone p hp)
    rw [StageResults.finalVerdict_fst] at hv
    exact absurd (le_bot_iff.mp ((joined_le_iff _ _).mpr hfires)) hv

/-- Without a block of the telemetry the right stage is named exactly when the name is that of
the deciding rule's stage. -/
theorem namesDecidingStage_of_not_telemetry (ht : ¬ TelemetryBlocks telemetry)
    (bundle : PolicyBundle) (digests : String × String) :
    NamesDecidingStage telemetry s (respond bundle telemetry s digests) ↔
      ((finalVerdict s).1 ≠ .allow → blockingStageFromResponse (respond bundle telemetry s digests)
        = s.decidingRule.map Prod.fst) := by
  have hverdict : (respond bundle telemetry s digests).finalVerdict = (finalVerdict s).1 := by
    show (judge telemetry s).1 = _
    rw [judge_fst, if_neg ht]
  unfold NamesDecidingStage
  rw [hverdict]
  constructor
  · rintro ⟨h, -⟩ hv
    obtain ⟨stage, rule, hd, hnamed, -, -⟩ := h ht hv
    rw [hnamed, hd, Option.map_some]
  · intro h
    refine ⟨fun _ hv => ?_, fun h => absurd h ht⟩
    obtain ⟨stage, rule, hd⟩ := exists_decidingRule hv
    have hdecided := finalVerdict_of_decidingRule hd
    refine ⟨stage, rule, hd, by rw [h hv, hd, Option.map_some], by rw [hdecided], ?_⟩
    show (judge telemetry s).2 = _
    rw [judge_of_ne_allow ht hv, hdecided]

/-- A block of a stage is blamed on the stage that decided it. -/
theorem namesDecidingStage_of_blocked (hb : s.Blocked) (bundle : PolicyBundle)
    (digests : String × String) :
    NamesDecidingStage telemetry s (respond bundle telemetry s digests) := by
  by_cases ht : TelemetryBlocks telemetry
  · exact ⟨fun h => absurd ht h, fun _ h => absurd hb h⟩
  rw [namesDecidingStage_of_not_telemetry ht]
  intro hv
  have hsome : (blockingStages.zip s.rules).find? (fun p => p.2.fires) ≠ none :=
    fun h => (find?_blocking_eq_none_iff s).mp h hb
  obtain ⟨p, hp⟩ := Option.ne_none_iff_exists'.mp hsome
  unfold blockingStageFromResponse StageResults.decidingRule StageResults.rulesByStage
  rw [decidingRule_of_blocked, List.find?_append, hp, Option.some_or, if_neg]
  · rfl
  · show (judge telemetry s).1 ≠ .allow
    rw [judge_fst, if_neg ht]
    exact hv

/-- When no stage blocks, the right stage is named exactly when nothing misleads. -/
theorem namesDecidingStage_of_not_blocked (hb : ¬ s.Blocked)
    (L : LaterStagesOk py env config telemetry row s)
    (hpre : PolicyPack.evaluatePack py row config.packs (registryModels config) none
      = .ok s.packPre) (bundle : PolicyBundle) (digests : String × String) :
    NamesDecidingStage telemetry s (respond bundle telemetry s digests) ↔
      ¬ Misleads py env config telemetry row := by
  have hrisk : RiskIsCritical py config row ↔ s.risk.level = .critical := yields_iff L.risk _
  have hquota := quota_asks_iff py env L
  have hpack : PackAsks py config row ↔ s.packPost.decision = .approvalRequired := by
    have hnot : ¬ PolicyPack.Blocks py row config.packs (registryModels config) := by
      rw [← (PolicyPack.evaluatePack_decision py hpre).1]
      exact fun h => hb (Or.inl h)
    unfold PackAsks
    rw [yields_iff L.risk, (PolicyPack.evaluatePack_decision py L.packPost).2]
    exact (and_iff_right hnot).symm
  unfold Misleads
  rw [hrisk, ← hquota, hpack]
  by_cases ht : TelemetryBlocks telemetry
  · have hv : (judge telemetry s).1 = .block := by rw [judge_fst, if_pos ht]
    unfold NamesDecidingStage
    rw [if_pos ht, blockingStage_of_not_blocked hb, hv]
    by_cases hcritical : s.risk.level = .critical <;> simp [ht, hb, hcritical]
  have hv : (judge telemetry s).1 = (finalVerdict s).1 := by rw [judge_fst, if_neg ht]
  have hasked := s.finalVerdict_ne_allow_iff
  rw [or_iff_right hb] at hasked
  have hnotblock : (finalVerdict s).1 ≠ .block := fun h => hb (s.finalVerdict_block_iff.mp h)
  rw [namesDecidingStage_of_not_telemetry ht, if_neg ht, blockingStage_of_not_blocked hb, hv,
    decidingStage_of_not_blocked hb]
  by_cases hallow : (finalVerdict s).1 = .allow
  · have hnone : ¬ s.Asked := fun h => hasked.mpr h hallow
    unfold StageResults.Asked at hnone
    simp only [hallow, ne_eq, not_true_eq_false, false_implies, true_iff]
    tauto
  have hrequired : (finalVerdict s).1 = .approvalRequired := by
    cases hf : (finalVerdict s).1 with
    | allow => exact absurd hf hallow
    | block => exact absurd hf hnotblock
    | approvalRequired => rfl
  have hsome : s.Asked := hasked.mp hallow
  unfold StageResults.Asked at hsome
  rw [hrequired]
  by_cases hq : s.quota.decision = .approvalRequired
  · simp only [hq, true_or, not_true_eq_false, iff_false]
    split_ifs <;> simp
  by_cases hp : s.packPost.decision = .approvalRequired
  · simp only [hq, hp, or_true, not_true_eq_false, iff_false]
    split_ifs <;> simp
  by_cases hr : s.risk.level = .critical
  · simp [hq, hp, hr]
  by_cases ha : s.approval.decision = .approvalRequired
  · simp [hq, hp, hr, ha]
  have hc : s.cost.decision = .warn := by tauto
  simp [hq, hp, hr, ha, hc]

end Blame

/-- **When the audit trail blames the right stage**: when an engine blocks, or when nothing
misleads it. -/
theorem namesDecidingStage_iff (py : PyRuntime) (env : EngineEnv) {bundle : PolicyBundle}
    {config : PolicyConfig} (telemetry : Option GovernanceTelemetryStage)
    {capabilities : String → String → Except PyError (String × String)}
    {payload : GovernanceEvaluateRequest} {response : GovernanceEvaluateResponse}
    (hconfig : bundle.config = .ok config)
    (h : evaluateGovernanceRequest py env bundle telemetry capabilities payload = .ok response) :
    (∃ s, runBundle py env bundle telemetry payload = .ok s ∧
        NamesDecidingStage telemetry s response) ↔
      PromptBlocks py (toPipelineRow payload)
        ∨ OtherRulesBlock py env config telemetry (toPipelineRow payload)
        ∨ ¬ Misleads py env config telemetry (toPipelineRow payload) := by
  unfold evaluateGovernanceRequest at h
  rw [bind_eq_ok] at h
  obtain ⟨s, hrun, h⟩ := h
  rw [bind_eq_ok] at h
  obtain ⟨digests, -, h⟩ := h
  rw [pure_eq_ok] at h
  subst h
  have hstages : evaluateStages py env config telemetry (toPipelineRow payload) = .ok s := by
    unfold runBundle at hrun
    rw [hconfig] at hrun
    exact hrun
  have hblocked := blocked_iff_rulesBlock py env hstages
  have hnames : (∃ s', runBundle py env bundle telemetry payload = .ok s' ∧
      NamesDecidingStage telemetry s' (respond bundle telemetry s digests)) ↔
      NamesDecidingStage telemetry s (respond bundle telemetry s digests) :=
    yields_iff hrun _
  rw [hnames, ← or_assoc, ← hblocked]
  by_cases hb : s.Blocked
  · exact iff_of_true (namesDecidingStage_of_blocked hb bundle digests) (Or.inl hb)
  · rw [or_iff_right hb]
    exact namesDecidingStage_of_not_blocked hb (laterStagesOk_of_not_blocked py env hstages hb)
      (evaluateStages_ok py env hstages).1 bundle digests

/-- The default request of the shipped bundle. -/
theorem namesDecidingStage_iff_shipped : ∃ response,
    evaluateGovernanceRequest .ascii (plainEnv .approvalRequired) shippedBundle none noCapabilities
      {} = .ok response ∧
    ((∃ s, runBundle .ascii (plainEnv .approvalRequired) shippedBundle none {} = .ok s ∧
        NamesDecidingStage none s response) ↔
      PromptBlocks .ascii (toPipelineRow {})
        ∨ OtherRulesBlock .ascii (plainEnv .approvalRequired) shippedConfig none (toPipelineRow {})
        ∨ ¬ Misleads .ascii (plainEnv .approvalRequired) shippedConfig none (toPipelineRow {})) := by
  obtain ⟨response, h⟩ := exists_ok_of_isOk (evaluateGovernanceRequest .ascii
    (plainEnv .approvalRequired) shippedBundle none noCapabilities {}) (by decide +kernel)
  exact ⟨response, h, namesDecidingStage_iff .ascii (plainEnv .approvalRequired) none rfl h⟩

/-- Telemetry without a readable quota state. -/
def quotaLost : GovernanceTelemetryStage := { quotaSource := .unavailable }

/-- The quota stage asks for approval because its state is unavailable, and the audit trail
blames the approval stage, which allows the request. -/
theorem blames_approval_for_quota :
    (evaluateGovernanceRequest .ascii (plainEnv .approvalRequired) shippedBundle (some quotaLost)
        noCapabilities {}).toOption.map (fun response =>
          (response.finalVerdict, blockingStageFromResponse response))
      = some (.approvalRequired, some "approval") ∧
    (runBundle .ascii (plainEnv .approvalRequired) shippedBundle (some quotaLost)
        {}).toOption.bind (fun s => s.decidingRule.map Prod.fst) = some "quota" := by
  decide +kernel

end ControlPlane

/-
# Tighter packs and quotas (`governance/quota/evaluate.py`)

A policy pack scales the limits of a tenant by its multiplier and truncates them.  Zero
stands for no limit, so a limit that a small multiplier scales below one is lifted instead
of tightened.
-/
import ControlPlane.Governance.Quota
import Mathlib.Algebra.Order.Floor.Ring
import Mathlib.Data.Rat.Floor

namespace ControlPlane.Quota

variable {py : PyRuntime}

/-! ## Scaled limits -/

section Scale

variable {m m₁ m₂ : ℚ} {limit : ℤ}

/-- Truncation is the floor for a limit and a multiplier that are not negative. -/
theorem scaleLimit_eq_floor (hlimit : 0 ≤ limit) (hm : 0 ≤ m) :
    scaleLimit m limit = ⌊(limit : ℚ) * m⌋ := by
  have hnonneg : 0 ≤ (limit : ℚ) * m := mul_nonneg (by exact_mod_cast hlimit) hm
  unfold scaleLimit
  split_ifs with hzero
  · rw [Rat.floor_def']
    exact Int.tdiv_eq_ediv_of_nonneg (Rat.num_nonneg.mpr hnonneg)
  · rw [not_not] at hzero
    rw [hzero, Int.cast_zero, zero_mul, Int.floor_zero]

theorem scaleLimit_one (limit : ℤ) : scaleLimit 1 limit = limit := by
  unfold scaleLimit
  split_ifs
  · rw [mul_one, Rat.num_intCast, Rat.den_intCast, Nat.cast_one, Int.tdiv_one]
  · rfl

/-- A limit stays a limit exactly when it is not scaled below one. -/
theorem scaleLimit_ne_zero_iff (hlimit : 0 ≤ limit) (hm : 0 ≤ m) :
    scaleLimit m limit ≠ 0 ↔ 1 ≤ (limit : ℚ) * m := by
  have hnonneg : 0 ≤ (limit : ℚ) * m := mul_nonneg (by exact_mod_cast hlimit) hm
  have hfloor : 0 ≤ ⌊(limit : ℚ) * m⌋ := Int.floor_nonneg.mpr hnonneg
  rw [scaleLimit_eq_floor hlimit hm]
  constructor
  · intro h
    have hone : (1 : ℤ) ≤ ⌊(limit : ℚ) * m⌋ := by omega
    exact_mod_cast Int.le_floor.mp hone
  · intro h
    have hone : (1 : ℤ) ≤ ⌊(limit : ℚ) * m⌋ := Int.le_floor.mpr (by exact_mod_cast h)
    omega

theorem scaleLimit_mono (hlimit : 0 ≤ limit) (hm₁ : 0 ≤ m₁) (hm : m₁ ≤ m₂) :
    scaleLimit m₁ limit ≤ scaleLimit m₂ limit := by
  rw [scaleLimit_eq_floor hlimit hm₁, scaleLimit_eq_floor hlimit (hm₁.trans hm)]
  exact Int.floor_le_floor (mul_le_mul_of_nonneg_left hm (by exact_mod_cast hlimit))

end Scale

/-! ## The limits of a tenant -/

/-- The limits of a tenant under a multiplier. -/
def scaled (limits : QuotaLimits) (m : ℚ) : QuotaLimits :=
  { limits with
    rpmLimit := scaleLimit m limits.rpmLimit, tokenLimit := scaleLimit m limits.tokenLimit }

/-- The limits of a policy are not negative. -/
structure NonnegLimits (limits : QuotaLimits) : Prop where
  rpmLimit : 0 ≤ limits.rpmLimit
  tokenLimit : 0 ≤ limits.tokenLimit
  budget : ∀ b ∈ limits.budget, 0 ≤ b.2

/-- The limits under any multiplier are the scaled limits under none. -/
theorem quotaLimits_scaled {tenant : Entry} {limits : QuotaLimits}
    (h : quotaLimits py tenant 1 = .ok limits) (m : ℚ) :
    quotaLimits py tenant m = .ok (scaled limits m) := by
  unfold quotaLimits at h ⊢
  cases hrpm : py.int (tenant.getD "requests_per_minute" (.int 0)) with
  | error e => simp [hrpm, bind, Except.bind] at h
  | ok rpm =>
  cases htokens : py.int (tenant.getD "tokens_per_day" (.int 0)) with
  | error e => simp [hrpm, htokens, bind, Except.bind] at h
  | ok tokens =>
  cases hbudget : tenant "max_monthly_budget_usd" with
  | none =>
    simp only [hrpm, htokens, hbudget, bind, Except.bind, pure, Except.pure, Except.ok.injEq,
      scaleLimit_one] at h ⊢
    rw [← h]
    rfl
  | some b =>
    cases hfloat : py.float b with
    | error e => simp [hrpm, htokens, hbudget, hfloat, bind, Except.bind] at h
    | ok q =>
      simp only [hrpm, htokens, hbudget, hfloat, bind, Except.bind, pure, Except.pure,
        Except.ok.injEq, scaleLimit_one] at h ⊢
      rw [← h]
      rfl

variable (py) in
/-- The engine blocks the row under the multiplier. -/
def Blocked (policies : Dict Entry) (row : PipelineRow) (m : ℚ) : Prop :=
  ∃ res, evaluateRequest py row policies m = .ok res ∧ res.decision = .block

/-- A row of an onboarded team is blocked by the rules it breaks under the scaled limits. -/
theorem blocked_iff {policies : Dict Entry} {row : PipelineRow} {tenant : Entry}
    {limits : QuotaLimits} (htenant : policies row.team = some tenant)
    (hlimits : quotaLimits py tenant 1 = .ok limits) (m : ℚ) :
    Blocked py policies row m ↔
      overRpm row (scaled limits m) ∨ overTokens row (scaled limits m)
        ∨ overBudget row limits ∨ sensitiveForbidden row tenant := by
  have hscaled := quotaLimits_scaled hlimits m
  have hreasons := quotaReasons_ne_nil py row tenant (scaled limits m)
  have hbudget : overBudget row (scaled limits m) ↔ overBudget row limits := Iff.rfl
  rw [hbudget] at hreasons
  rw [← hreasons]
  have heval : evaluateRequest py row policies m
      = .ok (if quotaReasons py row tenant (scaled limits m) ≠ [] then
          { decision := .block, reasons := quotaReasons py row tenant (scaled limits m) }
        else { decision := .allow, reasons := ["tenant quota checks passed"] }) := by
    unfold evaluateRequest
    simp only [htenant, hscaled, bind, Except.bind, pure, Except.pure]
    split <;> rfl
  unfold Blocked
  rw [heval]
  constructor
  · rintro ⟨res, hres, hblock⟩
    by_contra hnone
    rw [if_neg (not_not.mpr hnone), Except.ok.injEq] at hres
    rw [← hres] at hblock
    cases hblock
  · intro hsome
    exact ⟨_, rfl, by rw [if_pos hsome]⟩

/-! ## When a smaller multiplier never loosens -/

variable (py) in
/-- Whatever a larger multiplier blocks for the team, this one blocks as well. -/
def NeverLoosens (policies : Dict Entry) (team : String) (m₁ : ℚ) : Prop :=
  ∀ m₂, m₁ ≤ m₂ → ∀ row : PipelineRow, row.team = team →
    Blocked py policies row m₂ → Blocked py policies row m₁

/-- A request of a team that costs nothing, with given counters. -/
def freeRow (team : String) (requestsLastMinute tokensToday : ℤ) : PipelineRow :=
  toPipelineRow { team := team, requestsLastMinute := requestsLastMinute,
                  tokensToday := tokensToday, inputTokens := 0, outputTokens := 0,
                  costPerRequestUsd := 0, monthToDateCostUsd := 0 }

/-- A free request breaks no rule but those on its counters. -/
theorem blocked_freeRow_iff {policies : Dict Entry} {team : String} {tenant : Entry}
    {limits : QuotaLimits} (htenant : policies team = some tenant)
    (hlimits : quotaLimits py tenant 1 = .ok limits) (hnonneg : NonnegLimits limits)
    (requests tokens : ℤ) (m : ℚ) :
    Blocked py policies (freeRow team requests tokens) m ↔
      (scaleLimit m limits.rpmLimit ≠ 0 ∧ scaleLimit m limits.rpmLimit ≤ requests) ∨
      (scaleLimit m limits.tokenLimit ≠ 0 ∧ scaleLimit m limits.tokenLimit < tokens) := by
  have hteam : policies (freeRow team requests tokens).team = some tenant := htenant
  have hbudget : ¬ overBudget (freeRow team requests tokens) limits := by
    rintro ⟨b, hb, hlt⟩
    have hspend : projectedSpend (freeRow team requests tokens) = 0 := add_zero 0
    rw [hspend] at hlt
    exact absurd (hnonneg.budget b hb) (not_le.mpr hlt)
  have hsensitive : ¬ sensitiveForbidden (freeRow team requests tokens) tenant :=
    fun h => Bool.false_ne_true h.1
  have htokens : projectedTokens (freeRow team requests tokens) = tokens := by
    show tokens + (0 + 0) = tokens
    omega
  rw [blocked_iff hteam hlimits]
  unfold overTokens
  rw [htokens]
  simp only [hbudget, hsensitive, or_false]
  exact Iff.rfl

/-- **When tightening a pack never loosens a quota**: exactly when the multiplier scales
neither of the tenant's limits below one. -/
theorem neverLoosens_iff {policies : Dict Entry} {team : String} {tenant : Entry}
    {limits : QuotaLimits} (htenant : policies team = some tenant)
    (hlimits : quotaLimits py tenant 1 = .ok limits) (hnonneg : NonnegLimits limits) (m₁ : ℚ)
    (hm₁ : 0 ≤ m₁) :
    NeverLoosens py policies team m₁ ↔
      (limits.rpmLimit = 0 ∨ 1 ≤ limits.rpmLimit * m₁) ∧
      (limits.tokenLimit = 0 ∨ 1 ≤ limits.tokenLimit * m₁) := by
  have hlift : ∀ limit : ℤ, 0 ≤ limit → ¬ (limit = 0 ∨ 1 ≤ (limit : ℚ) * m₁) →
      0 < limit ∧ scaleLimit m₁ limit = 0 ∧ m₁ ≤ 1 := by
    intro limit hlimit hlow
    rw [not_or] at hlow
    have hpos : 0 < limit := by omega
    have hone : (1 : ℚ) ≤ limit := by exact_mod_cast hpos
    refine ⟨hpos, ?_, ?_⟩
    · by_contra hne
      exact hlow.2 ((scaleLimit_ne_zero_iff hlimit hm₁).mp hne)
    · by_contra hgt
      have hprod : (limit : ℚ) * 1 ≤ limit * m₁ :=
        mul_le_mul_of_nonneg_left (le_of_not_ge hgt) (by linarith)
      exact hlow.2 (by linarith)
  constructor
  · intro h
    constructor
    · by_contra hlow
      obtain ⟨hpos, hzero, hle⟩ := hlift _ hnonneg.rpmLimit hlow
      have hblock := h 1 hle (freeRow team limits.rpmLimit 0) rfl
        ((blocked_freeRow_iff htenant hlimits hnonneg _ _ _).mpr (by
          rw [scaleLimit_one]
          exact Or.inl ⟨by omega, le_refl _⟩))
      rw [blocked_freeRow_iff htenant hlimits hnonneg, hzero] at hblock
      rcases hblock with hblock | ⟨-, hblock⟩
      · exact hblock.1 rfl
      · rw [scaleLimit_eq_floor hnonneg.tokenLimit hm₁] at hblock
        have : 0 ≤ ⌊(limits.tokenLimit : ℚ) * m₁⌋ := Int.floor_nonneg.mpr
          (mul_nonneg (by exact_mod_cast hnonneg.tokenLimit) hm₁)
        omega
    · by_contra hlow
      obtain ⟨hpos, hzero, hle⟩ := hlift _ hnonneg.tokenLimit hlow
      have hblock := h 1 hle (freeRow team 0 (limits.tokenLimit + 1)) rfl
        ((blocked_freeRow_iff htenant hlimits hnonneg _ _ _).mpr (by
          rw [scaleLimit_one limits.tokenLimit]
          exact Or.inr ⟨by omega, by omega⟩))
      rw [blocked_freeRow_iff htenant hlimits hnonneg, hzero] at hblock
      rcases hblock with ⟨hne, hblock⟩ | hblock
      · rw [scaleLimit_eq_floor hnonneg.rpmLimit hm₁] at hblock hne
        have : 0 ≤ ⌊(limits.rpmLimit : ℚ) * m₁⌋ := Int.floor_nonneg.mpr
          (mul_nonneg (by exact_mod_cast hnonneg.rpmLimit) hm₁)
        omega
      · exact hblock.1 rfl
  · rintro ⟨hrpm, htokens⟩ m₂ hm row rfl hblock
    have hkeeps : ∀ limit : ℤ, 0 ≤ limit → (limit = 0 ∨ 1 ≤ (limit : ℚ) * m₁) →
        scaleLimit m₂ limit ≠ 0 → scaleLimit m₁ limit ≠ 0 := by
      intro limit hlimit hlow hne
      rcases hlow with rfl | hlow
      · exact absurd rfl hne
      · exact (scaleLimit_ne_zero_iff hlimit hm₁).mpr hlow
    rw [blocked_iff htenant hlimits] at hblock ⊢
    rcases hblock with ⟨hne, hle⟩ | ⟨hne, hlt⟩ | hbudget | hsensitive
    · exact Or.inl ⟨hkeeps _ hnonneg.rpmLimit hrpm hne,
        (scaleLimit_mono hnonneg.rpmLimit hm₁ hm).trans hle⟩
    · exact Or.inr (Or.inl ⟨hkeeps _ hnonneg.tokenLimit htokens hne,
        (scaleLimit_mono hnonneg.tokenLimit hm₁ hm).trans_lt hlt⟩)
    · exact Or.inr (Or.inr (Or.inl hbudget))
    · exact Or.inr (Or.inr (Or.inr hsensitive))

/-! ## A pack that lifts a limit -/

/-- A tenant with one request a minute. -/
def singlePolicies : Dict Entry :=
  Dict.ofList [("demo", Dict.ofList [("requests_per_minute", .int 1)])]

theorem quotaLimits_single : quotaLimits .ascii (Dict.ofList [("requests_per_minute", .int 1)]) 1
    = .ok { rpmLimit := 1, tokenLimit := 0, budget := none } := by decide +kernel

theorem neverLoosens_iff_single : NeverLoosens .ascii singlePolicies "demo" (3 / 2) ↔
    ((1 : ℤ) = 0 ∨ 1 ≤ ((1 : ℤ) : ℚ) * (3 / 2)) ∧ ((0 : ℤ) = 0 ∨ 1 ≤ ((0 : ℤ) : ℚ) * (3 / 2)) :=
  @neverLoosens_iff .ascii singlePolicies "demo" _ _ rfl quotaLimits_single
    ⟨by decide, by decide, by simp⟩ (3 / 2) (by norm_num)

/-- Under the multiplier one a second request within the minute is blocked; under one half it
is not. -/
theorem not_neverLoosens_half : Blocked .ascii singlePolicies (freeRow "demo" 1 0) 1 ∧
    ¬ Blocked .ascii singlePolicies (freeRow "demo" 1 0) (1 / 2) := by
  have hblocked := @blocked_freeRow_iff .ascii singlePolicies "demo" _ _ rfl quotaLimits_single
    ⟨by decide, by decide, by simp⟩ 1 0
  have hhalf : scaleLimit (1 / 2) 1 = 0 := by
    rw [scaleLimit_eq_floor (by decide) (by norm_num)]
    norm_num
  constructor
  · rw [hblocked, scaleLimit_one]
    exact Or.inl ⟨by decide, by decide⟩
  · rw [hblocked]
    rintro (⟨hne, -⟩ | ⟨hne, -⟩)
    · exact hne hhalf
    · exact hne rfl

end ControlPlane.Quota

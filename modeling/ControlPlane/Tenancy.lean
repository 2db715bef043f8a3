/-
# The tenant of a token (`app/identity_service.py`, `app/routers/approvals.py`)

With `TENANT_JWT_ONLY` the owner of a new decision and the scope of a read both come from the
claims of a token, along two chains of fallbacks.  They differ in one place: the owner falls
back to the first group that is a known team, the scope does not.
-/
import ControlPlane.GovernanceRouter
import ControlPlane.Store.Statements
import ControlPlane.Store.SerialRules

namespace ControlPlane.Tenancy

open Transaction

/-! ## The two chains -/

section Chains

variable (py : PyRuntime) (auth : AuthEnv)

/-- The tenant of an identity. -/
def writeTenant (headers : Headers) (body : GovernanceEvaluateRequest) : Except PyError String :=
  (resolveWorkloadIdentity py auth headers body).map WorkloadIdentity.tenantId

/-- `_tenant_scope`: the tenant that a read is filtered by. -/
def tenantScope (headers : Headers) : Except PyError (Option String) :=
  if ¬ auth.tenantIsolation then .ok none
  else
    match resolveRequestTenant py auth headers with
    | .error (.authenticationError text) => .error (.httpException 401 text)
    | .error e => .error e
    | .ok tenant =>
      if tenant = "" then .error (.httpException 400 "tenant required") else .ok (some tenant)

/-- The tenant that a chain gives: neither an exception nor the empty text is one. -/
def given (tenant : Except PyError String) : Option String :=
  tenant.toOption.filter (· ≠ "")

/-- The claims name a tenant in their groups and nowhere else. -/
def OnlyGroupsName (claims : Claims) : Prop :=
  claimText py claims ["tenant", "tenant_id"] = "" ∧ claimText py claims ["team"] = "" ∧
    ∃ team ∈ normalizeGroups py (claims.get "groups"), team ∈ knownTeams

/-- The owner that the claims give. -/
def ownerOf (claims : Claims) : String :=
  firstNonempty [claimText py claims ["tenant", "tenant_id"], claimText py claims ["team"],
    teamFromGroups (normalizeGroups py (claims.get "groups"))]

/-- The scope that the claims give. -/
def scopeOf (claims : Claims) : String :=
  firstNonempty [claimText py claims ["tenant", "tenant_id"], claimText py claims ["team"]]

variable {py auth}

theorem firstNonempty_cons (text : String) (texts : List String) :
    firstNonempty (text :: texts) = if text = "" then firstNonempty texts else text := by
  unfold firstNonempty
  by_cases h : text = ""
  · rw [List.find?_cons_of_neg (by simp [h]), if_pos h]
  · rw [List.find?_cons_of_pos (by simp [h]), if_neg h]
    rfl

theorem firstNonempty_singleton (text : String) : firstNonempty [text] = text := by
  rw [firstNonempty_cons]
  split
  · rename_i h
    rw [h]
    rfl
  · rfl

theorem teamFromGroups_ne_iff (groups : List String) :
    teamFromGroups groups ≠ "" ↔ ∃ team ∈ groups, team ∈ knownTeams := by
  unfold teamFromGroups
  cases hfind : groups.find? (· ∈ knownTeams) with
  | none =>
    simp only [Option.getD_none, ne_eq, not_true_eq_false, false_iff, not_exists, not_and]
    intro team hteam
    exact of_decide_eq_false (Bool.eq_false_iff.mpr (List.find?_eq_none.mp hfind team hteam))
  | some team =>
    have hknown : team ∈ knownTeams := by
      have hsome := List.find?_some hfind
      exact of_decide_eq_true hsome
    refine iff_of_true ?_ ⟨team, List.mem_of_find?_eq_some hfind, hknown⟩
    rintro rfl
    exact absurd hknown (by decide)

/-- **The two chains part where only the groups name a tenant.** -/
theorem ownerOf_eq_scopeOf_iff (claims : Claims) :
    ownerOf py claims = scopeOf py claims ↔ ¬ OnlyGroupsName py claims := by
  unfold ownerOf scopeOf OnlyGroupsName
  rw [← teamFromGroups_ne_iff]
  rw [firstNonempty_cons, firstNonempty_cons, firstNonempty_singleton, firstNonempty_cons,
    firstNonempty_singleton]
  by_cases htenant : claimText py claims ["tenant", "tenant_id"] = ""
  · by_cases hteam : claimText py claims ["team"] = ""
    · simp [htenant, hteam]
    · simp [htenant, hteam]
  · simp [htenant]

theorem jwtTenant_eq (claims : Claims) :
    (jwtTenant py claims).map Prod.snd = if ownerOf py claims = ""
      then .error (.authenticationError "token missing tenant claim")
      else .ok (ownerOf py claims) := by
  have howner : firstNonempty [claimText py claims ["tenant", "tenant_id"],
      firstNonempty [claimText py claims ["team"],
        teamFromGroups (normalizeGroups py (claims.get "groups"))]] = ownerOf py claims := by
    unfold ownerOf
    rw [firstNonempty_cons, firstNonempty_singleton,
      firstNonempty_cons (claimText py claims ["tenant", "tenant_id"])]
  unfold jwtTenant
  dsimp only
  rw [howner]
  by_cases h : ownerOf py claims = ""
  · rw [if_pos h, if_pos h]
    rfl
  · rw [if_neg h, if_neg h, Except.map]

theorem strip_ownerOf (claims : Claims) :
    strip (ownerOf py claims) = ownerOf py claims := by
  unfold ownerOf
  rw [firstNonempty_cons, firstNonempty_cons, firstNonempty_singleton]
  split_ifs
  · unfold teamFromGroups
    cases hfind : (normalizeGroups py (claims.get "groups")).find? (· ∈ knownTeams) with
    | none => decide
    | some team =>
      have hsome := List.find?_some hfind
      have hknown : team ∈ knownTeams := of_decide_eq_true hsome
      have hteams : ∀ known ∈ knownTeams, strip known = known := by decide
      exact hteams team hknown
  · exact strip_claimText py claims _
  · exact strip_claimText py claims _

variable {claims : Claims} {headers : Headers}

/-- The owner comes from the claims alone. -/
theorem writeTenant_eq (hjwt : auth.tenantJwtOnly = true)
    (hclaims : identityClaims py auth headers = .ok claims) (body : GovernanceEvaluateRequest) :
    writeTenant py auth headers body = if ownerOf py claims = ""
      then .error (.authenticationError "token missing tenant claim")
      else .ok (ownerOf py claims) := by
  rw [← jwtTenant_eq]
  unfold writeTenant resolveWorkloadIdentity
  rw [hclaims]
  simp only [bind, Except.bind, hjwt, if_true]
  cases jwtTenant py claims with
  | error e => rfl
  | ok owner => rfl

/-- The scope comes from the claims alone. -/
theorem resolveRequestTenant_eq (hjwt : auth.tenantJwtOnly = true)
    (hclaims : identityClaims py auth headers = .ok claims) :
    resolveRequestTenant py auth headers = .ok (scopeOf py claims) := by
  unfold resolveRequestTenant
  rw [hclaims]
  show (if auth.tenantJwtOnly then _ else _ : Except PyError String) = _
  rw [if_pos hjwt]
  rfl

theorem given_ok (tenant : String) :
    given (.ok tenant) = if tenant = "" then none else some tenant := by
  unfold given
  by_cases h : tenant = ""
  · rw [if_pos h, h]
    rfl
  · rw [if_neg h]
    exact Option.filter_some_pos (by simp [h])

theorem given_writeTenant (hjwt : auth.tenantJwtOnly = true)
    (hclaims : identityClaims py auth headers = .ok claims) (body : GovernanceEvaluateRequest) :
    given (writeTenant py auth headers body)
      = if ownerOf py claims = "" then none else some (ownerOf py claims) := by
  rw [writeTenant_eq hjwt hclaims]
  by_cases h : ownerOf py claims = ""
  · rw [if_pos h, if_pos h]
    rfl
  · rw [if_neg h, given_ok]

theorem agree_iff (hjwt : auth.tenantJwtOnly = true) {write read : Headers}
    (hwrite : identityClaims py auth write = .ok claims)
    (hread : identityClaims py auth read = .ok claims) (body : GovernanceEvaluateRequest) :
    given (writeTenant py auth write body) = given (resolveRequestTenant py auth read) ↔
      ¬ OnlyGroupsName py claims := by
  rw [given_writeTenant hjwt hwrite, resolveRequestTenant_eq hjwt hread, given_ok,
    ← ownerOf_eq_scopeOf_iff]
  constructor
  · intro h
    by_cases howner : ownerOf py claims = ""
    · by_cases hscope : scopeOf py claims = ""
      · rw [howner, hscope]
      · rw [if_pos howner, if_neg hscope] at h
        cases h
    · by_cases hscope : scopeOf py claims = ""
      · rw [if_neg howner, if_pos hscope] at h
        cases h
      · rw [if_neg howner, if_neg hscope] at h
        exact Option.some.inj h
  · intro h
    rw [h]

end Chains

/-! ## The owner of a recorded decision -/

section Records

-- what the endpoint computes between its statements is not evaluated
attribute [local irreducible] strip headerText runBundle enrichGovernanceRequest
  PolicyProcess.catchUp Server.grantedResponse

variable {server : Server} {headers : Headers} {merged : GovernanceEvaluateRequest}

/-- The requests that are recorded for a caller: as merged, or enriched. -/
def Recordable (server : Server) (headers : Headers) (merged request : GovernanceEvaluateRequest) :
    Prop :=
  request = merged ∨ ∃ enriched,
    enrichGovernanceRequest server.py server.signals merged headers = .ok enriched ∧
      request = enriched.1

theorem overlayCounters_tenant (snapshot : Option QuotaStateSnapshot)
    (payload : GovernanceEvaluateRequest) :
    (overlayCounters snapshot payload).tenantId = payload.tenantId := by
  unfold overlayCounters
  split
  · split <;> rfl
  · rfl

/-- Enrichment does not touch the tenant. -/
theorem Recordable.tenant {request : GovernanceEvaluateRequest}
    (h : Recordable server headers merged request) : request.tenantId = merged.tenantId := by
  rcases h with rfl | ⟨enriched, henrich, rfl⟩
  · rfl
  · unfold enrichGovernanceRequest at henrich
    dsimp only at henrich
    split at henrich
    · cases henrich
      exact overlayCounters_tenant _ _
    · rw [bind_eq_ok] at henrich
      obtain ⟨cost, -, henrich⟩ := henrich
      cases henrich
      exact overlayCounters_tenant (server.signals.quotaState merged.team) merged

/-- What the endpoint issues: the approval that is cited may expire or be consumed, and a
recordable request may be recorded. -/
theorem issues_evaluateMerged {P : Stmt Row → Prop} [Prog.Quiet P] (process : PolicyProcess)
    (draws : Draws) (clock : ℕ → Instant)
    (hexpire : ∀ approvalId now, P (.change (expireChange approvalId now)))
    (hconsume : ∀ approvalId now, P (.change (consumeChange approvalId now)))
    (haudit : ∀ m : AuditMetaRow, P (.insert (.auditMeta m)))
    (happroval : ∀ ttlSeconds now, P (.insert (.approval
      (newApproval draws.decisionId ttlSeconds draws.approvalId now))))
    (hdecision : ∀ result request digests now, Recordable server headers merged request →
      P (.insert (.decision ((newDecision server.py server.sha256 result request draws.requestId
        digests).row draws.decisionId now)))) :
    (server.evaluateMerged process headers merged draws clock).Issues P := by
  have hpersist : ∀ result request ttlSeconds clock, Recordable server headers merged request →
      (persistEvaluation server.py server.sha256 result request draws ttlSeconds clock).Issues P :=
    fun result request ttlSeconds clock hrequest =>
      issues_persistEvaluation (fun digests => hdecision _ _ _ _ hrequest) (happroval _ _)
        (fun m _ => haudit m)
  have hredeem : ∀ approvalId, (server.redeem process merged approvalId draws clock).Issues P := by
    intro approvalId
    unfold Server.redeem
    split
    · trivial
    · exact issues_approvalGrantsAllow (hexpire _) (hconsume _) (fun m _ => haudit m)
  have hgranted : ∀ approvalId clock,
      (server.allowRedeemed process merged approvalId draws clock).Issues P := by
    intro approvalId clock
    unfold Server.allowRedeemed
    refine Prog.issues_bind issues_pythonStep (fun _ => ?_)
    refine Prog.issues_bind (hpersist _ _ _ _ (Or.inl rfl)) (fun _ => ?_)
    exact Prog.issues_bind issues_pythonStep (fun _ => trivial)
  have hsynced : ∀ telemetry payload,
      (server.evaluateSynced process telemetry payload).Issues P := by
    intro telemetry payload
    unfold Server.evaluateSynced syncActiveFromStore
    refine Prog.issues_bind (Prog.issues_bind (Prog.issues_handle ?_ (fun _ => trivial))
      (fun _ => trivial)) (fun synced => ?_)
    · exact Prog.issues_bind (issues_session issues_fetchAll) (fun _ => trivial)
    · refine Prog.issues_bind (issues_done _) (fun stages => ?_)
      exact Prog.issues_bind issues_currentDigests (fun digests => trivial)
  have hfresh : ∀ clock,
      (server.evaluateFresh process headers merged draws clock).Issues P := by
    intro clock
    unfold Server.evaluateFresh
    cases henrich : enrichGovernanceRequest server.py server.signals merged headers with
    | error e => trivial
    | ok enriched =>
      rw [Prog.bind_ok]
      refine Prog.issues_bind (hsynced _ _) (fun result => ?_)
      exact hpersist _ _ _ _ (Or.inr ⟨enriched, henrich, rfl⟩)
  unfold Server.evaluateMerged
  refine Prog.issues_bind (Prog.issues_handle ?_ (fun _ => trivial)) (fun outcome => ?_)
  · unfold Server.evaluateOrRedeem
    refine Prog.issues_bind (hredeem _) (fun granted => ?_)
    split
    · exact Prog.issues_bind (hgranted _ _) (fun _ => trivial)
    · exact Prog.issues_bind (hfresh _) (fun _ => trivial)
  · unfold Server.auditFresh
    split
    · trivial
    · exact Prog.issues_bind issues_pythonStep (fun _ => trivial)

/-- Every decision is an old one or belongs to the tenant. -/
def OwnedBy (old : List DecisionRow) (tenant : String) (rows : List Row) : Prop :=
  ∀ d ∈ decisions rows, d ∈ old ∨ d.tenantId = tenant

/-- **A decision is recorded for the tenant of its request.** -/
theorem ownedBy_evaluateMerged (process : PolicyProcess) (draws : Draws) (clock : ℕ → Instant)
    (hne : merged.tenantId ≠ "") (hstrip : strip merged.tenantId = merged.tenantId)
    (fails : ℕ → Option PyError) (rows : List Row) :
    OwnedBy (decisions rows) merged.tenantId
      (outcome (server.evaluateMerged process headers merged draws clock) fails rows).2 := by
  have hupdate : ∀ guard set rows', OwnedBy (decisions rows) merged.tenantId rows' →
      OwnedBy (decisions rows) merged.tenantId ((updateApprovals guard set).apply rows') := by
    intro guard set rows' h
    unfold OwnedBy
    rw [decisions_update]
    exact h
  have hother : ∀ row : Row, row.decision? = none →
      Prog.Preserves schema (OwnedBy (decisions rows) merged.tenantId) (.insert row) := by
    intro row hrow rows' h _ d hd
    rw [decisions_append, List.mem_append] at hd
    rcases hd with hd | hd
    · exact h d hd
    · unfold decisions at hd
      rw [List.filterMap_cons, hrow] at hd
      cases hd
  have hissues : (server.evaluateMerged process headers merged draws clock).Issues
      (Prog.Preserves schema (OwnedBy (decisions rows) merged.tenantId)) := by
    refine issues_evaluateMerged process draws clock
      (fun _ _ rows' h => hupdate _ _ rows' h) (fun _ _ rows' h => hupdate _ _ rows' h)
      (fun m => hother (.auditMeta m) rfl) (fun _ _ => hother (.approval _) rfl) ?_
    intro result request digests now hrequest rows' h _ d hd
    rw [decisions_append, List.mem_append] at hd
    rcases hd with hd | hd
    · exact h d hd
    · right
      rw [List.mem_singleton.mp hd]
      show strip (orElse (orElse request.tenantId request.team) request.team) = merged.tenantId
      have horElse : ∀ text, orElse merged.tenantId text = merged.tenantId := by
        intro text
        unfold orElse
        rw [if_neg hne]
      rw [hrequest.tenant, horElse, horElse, hstrip]
  have hrun := hissues.keeps.run fails (σ := .ofRows rows) (fun d hd => Or.inl hd)
    (fun d hd => Or.inl hd)
  exact hrun.2.1

/-- A merged request belongs to the owner that its token gives. -/
theorem mergedRequest_tenant {claims : Claims} (hjwt : server.signals.auth.tenantJwtOnly = true)
    (hclaims : identityClaims server.py server.signals.auth headers = .ok claims)
    {body : GovernanceEvaluateRequest} (h : server.mergedRequest headers body = .ok merged) :
    ownerOf server.py claims ≠ "" ∧ merged.tenantId = ownerOf server.py claims := by
  have hwrite := writeTenant_eq hjwt hclaims (applySupplyChainHeaders body headers)
  unfold writeTenant at hwrite
  unfold Server.mergedRequest at h
  cases hidentity : resolveWorkloadIdentity server.py server.signals.auth headers
      (applySupplyChainHeaders body headers) with
  | error e =>
    simp only [hidentity] at h
    cases e <;> cases h
  | ok identity =>
    simp only [hidentity] at h
    cases h
    rw [hidentity, Except.map] at hwrite
    by_cases howner : ownerOf server.py claims = ""
    · rw [if_pos howner] at hwrite
      cases hwrite
    · rw [if_neg howner] at hwrite
      exact ⟨howner, Except.ok.inj hwrite⟩

/-- **A recorded decision belongs to the owner that the token gives.** -/
theorem recorded_owner {claims : Claims} (hjwt : server.signals.auth.tenantJwtOnly = true)
    (hclaims : identityClaims server.py server.signals.auth headers = .ok claims)
    (process : PolicyProcess) (body : GovernanceEvaluateRequest) (draws : Draws)
    (clock : ℕ → Instant) (fails : ℕ → Option PyError) (rows : List Row) {d : DecisionRow}
    (hd : d ∈ decisions
      (outcome (server.governanceEvaluate process headers body draws clock) fails rows).2)
    (hnew : d ∉ decisions rows) :
    ownerOf server.py claims ≠ "" ∧ d.record.tenantId = ownerOf server.py claims := by
  unfold Server.governanceEvaluate at hd
  cases hmerged : server.mergedRequest headers body with
  | error e =>
    rw [hmerged] at hd
    exact absurd hd hnew
  | ok merged =>
    obtain ⟨hne, htenant⟩ := mergedRequest_tenant hjwt hclaims hmerged
    have hstrip : strip merged.tenantId = merged.tenantId := by
      rw [htenant]
      exact strip_ownerOf claims
    rw [hmerged, Prog.bind_ok] at hd
    rcases ownedBy_evaluateMerged process _ clock (htenant ▸ hne) hstrip fails rows d hd
      with hold | howned
    · exact absurd hold hnew
    · refine ⟨hne, ?_⟩
      show orElse d.tenantId d.team = ownerOf server.py claims
      unfold orElse
      rw [howned, htenant, if_neg hne]

end Records

/-! ## Writing and reading with one token -/

section Agreement

variable {py : PyRuntime} {auth : AuthEnv} {claims : Claims} {read : Headers}

theorem tenantScope_eq (hjwt : auth.tenantJwtOnly = true) (hisolated : auth.tenantIsolation = true)
    (hread : identityClaims py auth read = .ok claims) :
    tenantScope py auth read = if scopeOf py claims = ""
      then .error (.httpException 400 "tenant required") else .ok (some (scopeOf py claims)) := by
  unfold tenantScope
  rw [if_neg (not_not.mpr hisolated), resolveRequestTenant_eq hjwt hread]

/-- **Writing and reading with one token.**  Whatever else the two requests contain, the owner
and the scope agree, and a read finds the decisions recorded with its token, exactly when the
claims do not leave it to the groups alone to name the tenant. -/
theorem tenants_agree_iff (server : Server) (claims : Claims) (write read : Headers)
    (hjwt : server.signals.auth.tenantJwtOnly = true)
    (hwrite : identityClaims server.py server.signals.auth write = .ok claims)
    (hread : identityClaims server.py server.signals.auth read = .ok claims) :
    (∀ body, given (writeTenant server.py server.signals.auth write body)
        = given (resolveRequestTenant server.py server.signals.auth read) ↔
      ¬ OnlyGroupsName server.py claims) ∧
    (∀ headers body body', identityClaims server.py server.signals.auth headers = .ok claims →
      writeTenant server.py server.signals.auth headers body'
          = writeTenant server.py server.signals.auth write body ∧
        resolveRequestTenant server.py server.signals.auth headers
          = resolveRequestTenant server.py server.signals.auth read) ∧
    (server.signals.auth.tenantIsolation = true →
      ∀ process body draws clock fails rows, ∀ d ∈ decisions
          (outcome (server.governanceEvaluate process write body draws clock) fails rows).2,
        d ∉ decisions rows →
        (tenantScope server.py server.signals.auth read = .ok (some d.record.tenantId) ↔
          ¬ OnlyGroupsName server.py claims)) := by
  refine ⟨fun body => agree_iff hjwt hwrite hread body, ?_, ?_⟩
  · intro headers body body' hclaims
    rw [writeTenant_eq hjwt hclaims, writeTenant_eq hjwt hwrite,
      resolveRequestTenant_eq hjwt hclaims, resolveRequestTenant_eq hjwt hread]
    exact ⟨rfl, rfl⟩
  · intro hisolated process body draws clock fails rows d hd hnew
    obtain ⟨hne, howner⟩ := recorded_owner hjwt hwrite process body draws clock fails rows hd hnew
    rw [tenantScope_eq hjwt hisolated hread, howner, ← ownerOf_eq_scopeOf_iff]
    constructor
    · intro h
      by_cases hscope : scopeOf server.py claims = ""
      · rw [if_pos hscope] at h
        cases h
      · rw [if_neg hscope] at h
        exact (Option.some.inj (Except.ok.inj h)).symm
    · intro h
      rw [← h, if_neg hne]

end Agreement

/-! ## Two tokens -/

/-- A server that takes tenants from verified tokens only; there is one valid token. -/
def tokenServer (claims : Claims) : Server where
  py := .ascii
  sha256 := fun _ => "sha256:r"
  engine := plainEnv .approvalRequired
  signals := {
    auth := {
      jwtVerify := true, tenantJwtOnly := true, tenantIsolation := true
      verifyBearerToken := fun token => if token = "t" then some claims else none
      decodeUnsignedPayload := fun _ => none }
    quotaState := fun _ => none
    prometheus := fun _ _ => {} }
  loadBundle := fun _ => .ok shippedBundle

/-- A request with the valid token. -/
def bearer : Headers := Dict.ofList [("authorization", "Bearer t")]

/-- A token whose tenant claim is padded; its groups name another team. -/
def tenantClaims : Claims := [("tenant", .str " finance "), ("groups", .arr [.str "search"])]

theorem identityClaims_bearer (claims : Claims) :
    identityClaims .ascii (tokenServer claims).signals.auth bearer = .ok claims := by
  have htoken : bearerToken .ascii bearer = some "t" := by decide +kernel
  unfold identityClaims requireBearerClaims
  rw [htoken]
  rfl

theorem tenants_agree_iff_tenant :
    ¬ OnlyGroupsName .ascii tenantClaims ∧
      ∀ body, given (writeTenant .ascii (tokenServer tenantClaims).signals.auth bearer body)
        = given (resolveRequestTenant .ascii (tokenServer tenantClaims).signals.auth bearer) := by
  have hnamed : ¬ OnlyGroupsName .ascii tenantClaims := by
    unfold OnlyGroupsName
    decide +kernel
  exact ⟨hnamed, fun body => ((tenants_agree_iff (tokenServer tenantClaims) tenantClaims bearer
    bearer rfl (identityClaims_bearer _) (identityClaims_bearer _)).1 body).mpr hnamed⟩

/-- The token of a user who belongs to a group and has no team claim. -/
def groupClaims : Claims := [("sub", .str "user-42"), ("groups", .arr [.str "finance"])]

/-- **A tenant loses sight of its own decisions.**  The decision is recorded for the team that
the groups name, and a read with the same token is refused. -/
theorem groups_own_but_do_not_scope :
    (writeTenant .ascii (tokenServer groupClaims).signals.auth bearer {}).toOption = some "finance" ∧
      (tenantScope .ascii (tokenServer groupClaims).signals.auth bearer).isOk = false ∧
      ¬ given (writeTenant .ascii (tokenServer groupClaims).signals.auth bearer {})
        = given (resolveRequestTenant .ascii (tokenServer groupClaims).signals.auth bearer) := by
  decide +kernel

end ControlPlane.Tenancy

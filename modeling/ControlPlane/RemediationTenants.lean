/-
# Tenants of the remediation endpoints

A token that names its tenant, and has no role across tenants, is bound to this tenant: its
requests change no proposal of another tenant and show none.
-/
import ControlPlane.RemediationRouter

namespace ControlPlane.Remediation

open Transaction AuditTrail
open Function (uncurry)

attribute [local irreducible] headerText runBundle enrichGovernanceRequest PolicyProcess.catchUp

/-! ## Bound tokens -/

/-- The request comes with a valid token of a tenant, and without a role across tenants.  Where
headers may name a tenant, the claim of the token has to. -/
structure Bound (py : PyRuntime) (auth : AuthEnv) (tenant : String) (headers : Headers)
    (claims : Claims) : Prop where
  valid : requireBearerClaims py auth headers = .ok claims
  nonempty : tenant ≠ ""
  named : claimText py claims ["tenant", "tenant_id"] = tenant ∨
    auth.tenantJwtOnly = true ∧ Tenancy.scopeOf py claims = tenant
  inside : ∀ role ∈ crossTenantRoles, role ∉ rolesFromClaims py auth claims

section Tokens

variable {py : PyRuntime} {auth : AuthEnv} {tenant : String} {headers : Headers} {claims : Claims}

theorem identityClaims_of_valid (hjwt : auth.jwtVerify = true)
    (h : requireBearerClaims py auth headers = .ok claims) :
    identityClaims py auth headers = .ok claims := by
  unfold identityClaims
  by_cases honly : auth.tenantJwtOnly = true
  · rw [if_pos honly, if_neg (not_not.mpr hjwt), h]
  · rw [if_neg honly]
    -- both resolvers read the same token, which verifies
    unfold requireBearerClaims at h
    unfold extractBearerClaims
    cases htoken : bearerToken py headers with
    | none =>
      rw [htoken] at h
      cases h
    | some token =>
      rw [htoken] at h
      simp only [hjwt, if_true] at h ⊢
      cases hverify : auth.verifyBearerToken token with
      | none =>
        rw [hverify] at h
        cases h
      | some found =>
        rw [hverify] at h
        cases h
        rfl

/-- The tenant of a bound token. -/
theorem Bound.tenant_eq (hjwt : auth.jwtVerify = true) (h : Bound py auth tenant headers claims) :
    resolveRequestTenant py auth headers = .ok tenant := by
  have hclaims := identityClaims_of_valid hjwt h.valid
  by_cases honly : auth.tenantJwtOnly = true
  · rw [Tenancy.resolveRequestTenant_eq honly hclaims]
    rcases h.named with hclaim | ⟨-, hscope⟩
    · unfold Tenancy.scopeOf
      rw [Tenancy.firstNonempty_cons, hclaim, if_neg h.nonempty]
    · rw [hscope]
  · have hclaim : claimText py claims ["tenant", "tenant_id"] = tenant :=
      h.named.resolve_right (fun hboth => honly hboth.1)
    unfold resolveRequestTenant
    rw [hclaims]
    show (if auth.tenantJwtOnly then _ else _ : Except PyError String) = _
    rw [if_neg honly, Tenancy.firstNonempty_cons, hclaim, if_neg h.nonempty]
    rfl

/-- What a bound token asks for is its own tenant, or the request is refused. -/
theorem Bound.tenantForRequest (hjwt : auth.jwtVerify = true)
    (h : Bound py auth tenant headers claims) {bodyTenant : String} {found : Option String}
    (hfound : tenantForRequest py auth headers "" bodyTenant = .ok found) :
    found = some tenant := by
  have hlocal : crossTenantRoles.any (fun role => role ∈ rolesFromClaims py auth claims)
      = false := by
    rw [List.any_eq_false]
    intro role hrole
    simpa using h.inside role hrole
  unfold ControlPlane.tenantForRequest at hfound
  dsimp only at hfound
  rw [if_neg (not_not.mpr hjwt), h.valid, h.tenant_eq hjwt] at hfound
  simp only [identityException, bind, Except.bind, hlocal, Bool.false_eq_true, if_false,
    h.nonempty] at hfound
  split at hfound
  · cases hfound
  · exact (Except.ok.inj hfound).symm

end Tokens

section Requests

variable {server : Server} {tenant : String} {headers : Headers} {claims : Claims}

theorem Bound.requestTenant (hjwt : server.signals.auth.jwtVerify = true)
    (h : Bound server.py server.signals.auth tenant headers claims) {bodyTenant : String}
    {found : Option String} (hfound : requestTenant server headers bodyTenant = .ok found) :
    found = some tenant := by
  unfold Remediation.requestTenant at hfound
  obtain ⟨first, hfirst, hrest⟩ := bind_eq_ok.mp hfound
  obtain rfl := h.tenantForRequest hjwt hfirst
  exact (Except.ok.inj hrest).symm

theorem Bound.tenantScope (hjwt : server.signals.auth.jwtVerify = true)
    (hisolation : server.signals.auth.tenantIsolation = true)
    (h : Bound server.py server.signals.auth tenant headers claims) {bodyTenant : String} :
    tenantScope server headers bodyTenant = .ok (some tenant) := by
  unfold Remediation.tenantScope
  rw [if_neg (not_not.mpr hisolation), h.tenant_eq hjwt]
  show (if orElse tenant _ = "" then _ else _ : Except PyError (Option String)) = _
  have hown : orElse tenant (strip bodyTenant) = tenant := by
    unfold orElse
    rw [if_neg h.nonempty]
  rw [hown, if_neg h.nonempty]
  rfl

end Requests

/-! ## What a request may touch -/

/-- The proposals of a tenant. -/
def ofTenant (tenant : String) (rows : List Row) : List RemediationProposalRow :=
  (proposals rows).filter (fun p => p.tenantId = tenant)

/-- The proposals of the other tenants. -/
def ofOthers (tenant : String) (rows : List Row) : List RemediationProposalRow :=
  (proposals rows).filter (fun p => p.tenantId ≠ tenant)

/-- The other tenants have these proposals. -/
structure Confined (tenant : String) (others : List RemediationProposalRow) (rows : List Row) :
    Prop where
  keys : (rows.map Row.key).Nodup
  others : ofOthers tenant rows = others

/-- The other tenants have these proposals, and a proposal is one of the tenant. -/
structure Owned (tenant : String) (others : List RemediationProposalRow) (proposalId : String)
    (rows : List Row) : Prop extends Confined tenant others rows where
  own : ∃ p ∈ proposals rows, p.proposalId = proposalId ∧ p.tenantId = tenant

section Frames

variable {tenant proposalId : String} {others : List RemediationProposalRow} {rows rows' : List Row}

theorem Owned.tenant_of {p : RemediationProposalRow} (h : Owned tenant others proposalId rows)
    (hp : p ∈ proposals rows) (hid : p.proposalId = proposalId) : p.tenantId = tenant := by
  obtain ⟨q, hq, hqid, htenant⟩ := h.own
  have hsame : Row.proposal p = Row.proposal q :=
    List.inj_on_of_nodup_map h.keys ((mem_proposals rows).mp hp) ((mem_proposals rows).mp hq)
      (congrArg RowKey.proposal (hid.trans hqid.symm))
  rw [Row.proposal.inj hsame, htenant]

/-- Nothing is done to proposals. -/
theorem Owned.of_same (h : Owned tenant others proposalId rows) (hkeys : (rows'.map Row.key).Nodup)
    (hsame : proposals rows' = proposals rows) : Owned tenant others proposalId rows' where
  keys := hkeys
  others := by
    unfold ofOthers
    rw [hsame]
    exact h.others
  own := by
    rw [hsame]
    exact h.own

/-- A new row has a new key. -/
theorem nodup_insert {row : Row} (h : (rows.map Row.key).Nodup)
    (hadmits : schema.admits rows row = true) : ((rows ++ [row]).map Row.key).Nodup := by
  rw [List.map_append, List.nodup_append]
  refine ⟨h, List.nodup_singleton _, ?_⟩
  rintro key hkey _ hnew rfl
  rw [List.mem_singleton.mp hnew] at hkey
  exact (admits_iff.mp hadmits).1 hkey

theorem Owned.insert {row : Row} (h : Owned tenant others proposalId rows)
    (hadmits : schema.admits rows row = true) (hrow : proposals [row] = []) :
    Owned tenant others proposalId (rows ++ [row]) := by
  refine h.of_same (nodup_insert h.keys hadmits) ?_
  rw [proposals_append, hrow, List.append_nil]

theorem Owned.update {guard : ApprovalRow → Bool} {set : ApprovalRow → ApprovalRow}
    (h : Owned tenant others proposalId rows) (hid : ∀ a, (set a).approvalId = a.approvalId) :
    Owned tenant others proposalId ((updateApprovals guard set).apply rows) := by
  refine h.of_same ?_ proposals_update
  rw [keys_update hid]
  exact h.keys

/-- **The proposal itself is updated.** -/
theorem Owned.move (h : Owned tenant others proposalId rows) (u : ProposalUpdate) (time : String) :
    Owned tenant others proposalId ((updateProposalChange proposalId u time).apply rows) where
  keys := by
    rw [keys_updateProposal]
    exact h.keys
  others := by
    rw [← h.others]
    unfold ofOthers
    rw [proposals_updateProposal, List.filter_map]
    -- an update does not move a proposal to another tenant
    have htenant : (fun p : RemediationProposalRow => decide (p.tenantId ≠ tenant)) ∘
        updatedProposal proposalId u time = fun p => decide (p.tenantId ≠ tenant) := by
      funext p
      simp only [Function.comp]
      unfold updatedProposal
      split <;> rfl
    rw [htenant]
    refine (List.map_congr_left (fun p hp => ?_)).trans (List.map_id _)
    obtain ⟨hmem, hother⟩ := List.mem_filter.mp hp
    unfold updatedProposal
    rw [if_neg (fun hid => of_decide_eq_true hother (h.tenant_of hmem hid))]
    rfl
  own := by
    obtain ⟨p, hp, hid, htenant⟩ := h.own
    refine ⟨u.set time p, ?_, hid, htenant⟩
    rw [proposals_updateProposal, List.mem_map]
    refine ⟨p, hp, ?_⟩
    unfold updatedProposal
    rw [if_pos hid]

/-- **A new proposal of the tenant.** -/
theorem Confined.open {p : RemediationProposalRow} (h : Confined tenant others rows)
    (hadmits : schema.admits rows (.proposal p) = true) (htenant : p.tenantId = tenant) :
    Owned tenant others p.proposalId (rows ++ [.proposal p]) where
  keys := nodup_insert h.keys hadmits
  others := by
    rw [← h.others]
    unfold ofOthers
    rw [proposals_append, List.filter_append]
    have hnone : (proposals [Row.proposal p]).filter (fun p => decide (p.tenantId ≠ tenant))
        = [] := by
      show ([p] : List RemediationProposalRow).filter _ = []
      simp [htenant]
    rw [hnone, List.append_nil]
  own := by
    refine ⟨p, ?_, rfl, htenant⟩
    rw [proposals_append]
    exact List.mem_append_right _ (List.mem_singleton_self p)

end Frames

/-! ## The operations -/

section Operations

variable {server : Server} {py : PyRuntime} {tenant proposalId : String}
  {others : List RemediationProposalRow} {rows : List Row} {clock : ℕ → Instant}

/-- What an operation answers is a proposal of the tenant. -/
def Own (tenant : String) (r : Except PyError RemediationProposalRow) : Prop :=
  ∀ record, r = .ok record → record.tenantId = tenant

theorem own_error (e : PyError) : Own tenant (.error e) := by
  intro record h
  cases h

/-- The update at the end of an operation. -/
theorem keeps_updateRemediationProposal (u : ProposalUpdate) (now : Instant) :
    (updateRemediationProposal proposalId u now).Keeps schema (Owned tenant others proposalId)
      (Own tenant) := by
  refine keeps_session ?_ own_error
  refine Prog.keeps_bind (Q := Own tenant) ?_ (fun record hrecord => ?_) (fun e _ => own_error e)
  · refine Prog.keeps_bind (keeps_execute (fun rows h => h.move u _)) (fun count _ => ?_)
      (fun e _ => own_error e)
    split
    · exact own_error _
    · refine Prog.keeps_bind keeps_fetchAll (fun read hread => ?_) (fun e _ => own_error e)
      -- the row that is read back is of the tenant that owns the proposal
      cases hfind : findProposal read proposalId with
      | none => exact own_error _
      | some record =>
        intro record' hrecord
        cases hrecord
        obtain ⟨hid, hmem⟩ := findProposal_some hfind
        exact (hread read rfl).tenant_of hmem hid
  · refine Prog.keeps_bind keeps_commit (fun _ _ => ?_) (fun e _ => own_error e)
    exact hrecord

/-- Work before the update, which does nothing to proposals. -/
theorem keeps_work {α : Type} {program : StoreM α} {rest : α → StoreM RemediationProposalRow}
    (hprogram : program.Issues (Prog.Preserves schema (Owned tenant others proposalId)))
    (hrest : ∀ a, (rest a).Keeps schema (Owned tenant others proposalId) (Own tenant)) :
    (program >>= rest).Keeps schema (Owned tenant others proposalId) (Own tenant) :=
  Prog.keeps_bind hprogram.keeps (fun a _ => hrest a) (fun e _ => own_error e)

/-- **An operation on a proposal** that loads it for the tenant. -/
theorem meets_loaded {rest : RemediationProposalRow → StoreM RemediationProposalRow}
    (hrest : ∀ record : RemediationProposalRow, record.proposalId = proposalId →
      (rest record).Keeps schema (Owned tenant others proposalId) (Own tenant)) :
    (load proposalId (some tenant) >>= rest).Meets schema (Prog.Clean (Confined tenant others))
      (fun record c _ => Confined tenant others c ∧ record.tenantId = tenant)
      (fun c _ => Confined tenant others c) := by
  have hload : (load proposalId (some tenant)).Meets schema (Prog.Clean (Confined tenant others))
      (fun record => Prog.Clean (fun rows => Confined tenant others rows ∧
        findProposal rows proposalId = some record ∧
          (some tenant).any (fun t => record.tenantId ≠ t) = false))
      (fun c _ => Confined tenant others c) :=
    Prog.Meets.mono settles_load (fun _ _ h => h) (fun _ _ _ h => h) (fun _ _ h => h.2)
  refine Prog.meets_bind hload (fun record fails σ hσ => ?_)
  obtain ⟨hclean, hconfined, hfind, htenant⟩ := hσ
  obtain ⟨hid, hmem⟩ := findProposal_some hfind
  have hown : record.tenantId = tenant := by simpa using htenant
  -- the load has compared the tenants
  have howned : Owned tenant others proposalId σ.committed :=
    ⟨hconfined, record, hmem, hid, hown⟩
  obtain ⟨hok, herror⟩ := (hrest record hid).meets fails σ ⟨howned, hclean ▸ howned⟩
  exact ⟨fun a ha => ⟨(hok a ha).2.1.toConfined, (hok a ha).1 a rfl⟩,
    fun e he => (herror e he).1.toConfined⟩

variable (tenant others) in
/-- What an operation for a tenant leaves behind it, and answers. -/
def KeepsApart (program : StoreM RemediationProposalRow) : Prop :=
  program.Meets schema (Prog.Clean (Confined tenant others))
    (fun record c _ => Confined tenant others c ∧ record.tenantId = tenant)
    (fun c _ => Confined tenant others c)

/-- A check between the load and the update. -/
theorem keeps_checked {x : Except PyError Unit} {rest : Unit → StoreM RemediationProposalRow}
    (hrest : (rest ()).Keeps schema (Owned tenant others proposalId) (Own tenant)) :
    (Prog.done x >>= rest).Keeps schema (Owned tenant others proposalId) (Own tenant) := by
  cases x with
  | error e => exact own_error e
  | ok _ => exact hrest

theorem apart_evaluatePolicy (process : PolicyProcess) (environment : String)
    (team : Option String) (draws : Draws) :
    KeepsApart tenant others (evaluatePolicy server process proposalId (some tenant) environment
      team draws clock) := by
  refine meets_loaded (fun record hid => keeps_checked ?_)
  refine keeps_work (issues_evaluateSynced _ _ _) (fun result => ?_)
  refine keeps_work (issues_persistEvaluation ?_ ?_ ?_) (fun persisted => ?_)
  · exact fun digests rows h hadmits => h.insert hadmits rfl
  · exact fun rows h hadmits => h.insert hadmits rfl
  · exact fun m _ rows h hadmits => h.insert hadmits rfl
  · exact keeps_updateRemediationProposal _ _

theorem apart_resolveProposal (approved : Bool) (reviewer comment eventId : String) :
    KeepsApart tenant others (resolveProposal py proposalId approved reviewer comment (some tenant)
      eventId clock) := by
  refine meets_loaded (fun record hid => keeps_checked ?_)
  refine keeps_work (issues_resolveLinked ?_ ?_ ?_) (fun _ => keeps_updateRemediationProposal _ _)
  · exact fun approvalId time rows h => h.update (fun _ => rfl)
  · exact fun approvalId time rows h => h.update (fun _ => rfl)
  · exact fun m rows h hadmits => h.insert hadmits rfl

theorem apart_preparePrDraft (gitops : GitOpsPullRequestRequest → Except String (Option String))
    (prUrl : Option String) (now : Instant) :
    KeepsApart tenant others (preparePrDraft gitops proposalId (some tenant) prUrl now) := by
  refine meets_loaded (fun record hid => keeps_checked ?_)
  exact keeps_work issues_draftUrl (fun url => keeps_updateRemediationProposal _ _)

theorem apart_markApplied (prUrl : Option String) :
    KeepsApart tenant others (markApplied proposalId (some tenant) prUrl clock) :=
  meets_loaded (fun _ _ => keeps_checked (keeps_updateRemediationProposal _ _))

theorem apart_verifyRuntime (inventory : DriftStatus) (probeFresh : Bool) :
    KeepsApart tenant others
      (verifyRuntime proposalId (some tenant) inventory probeFresh clock) := by
  refine meets_loaded (fun record hid => keeps_work (issues_beginVerifying ?_) (fun _ => ?_))
  · intro u time rows h
    rw [hid]
    exact h.move u _
  · exact keeps_work issues_pythonStep (fun _ => keeps_updateRemediationProposal _ _)

/-- **A new proposal** belongs to the tenant. -/
theorem apart_createFromDrift (htenant : tenant ≠ "") (actionIndex : Option ℤ)
    (actionKind : Option String) (status : DriftStatus) (now : Instant) :
    KeepsApart tenant others
      (createFromDrift tenant actionIndex actionKind status proposalId now) := by
  have hown : orElse tenant "platform" = tenant := by
    unfold orElse
    rw [if_neg htenant]
  unfold createFromDrift
  split
  · exact Prog.meets_done (fun _ _ _ ha => by cases ha) (fun _ _ _ _ h => h.2)
  cases haction : selectAction status actionIndex actionKind with
  | error e => exact Prog.meets_done (fun _ _ _ ha => by cases ha) (fun _ _ _ _ h => h.2)
  | ok action =>
    rw [Prog.bind_ok, hown]
    refine Prog.meets_bind (R := fun id => Prog.Clean (fun rows => id = proposalId ∧
      Owned tenant others proposalId rows)) ?_ (fun id => ?_)
    · -- the insertion is there with its commit, or not at all
      refine Prog.meets_bind (R := fun _ => Prog.Clean (Owned tenant others proposalId)) ?_
        (fun _ => Prog.meets_done ?_ (fun _ _ _ he => by cases he))
      · refine Prog.Meets.mono (settles_onConnection (P := Confined tenant others)
          (Q := fun _ => Owned tenant others proposalId) ?_) (fun _ _ h => h) (fun _ _ _ h => h) ?_
        · refine (meets_insert _ (fun _ _ h => h.2)).mono (fun _ _ h => h) ?_ (fun _ _ h => h)
          rintro _ c r ⟨r', ⟨rfl, hc⟩, hadmits, rfl⟩
          exact ⟨hc, hc.open hadmits rfl⟩
        · rintro c r ⟨-, h | ⟨-, h⟩⟩
          · exact h
          · exact h.toConfined
      · rintro id c r hid ⟨hclean, h⟩
        cases hid
        exact ⟨hclean, rfl, h⟩
    · refine Prog.meets_bind (R := fun found c _ => Confined tenant others c ∧
        ∀ record ∈ found, record.tenantId = tenant) ?_ (fun found => ?_)
      · refine Prog.meets_bind (R := fun read => Prog.Clean (fun rows => read = rows ∧
          id = proposalId ∧ Owned tenant others proposalId rows))
          (Prog.Meets.mono settles_session_fetchAll (fun _ _ h => h) (fun _ _ _ h => h)
            (fun _ _ h => h.2.2.toConfined)) (fun read => ?_)
        cases hfind : findProposal read id with
        | none =>
          refine Prog.meets_done ?_ (fun _ _ _ he => by cases he)
          rintro found c r hfound ⟨-, -, -, h⟩
          cases hfound
          exact ⟨h.toConfined, fun record hrecord => by cases hrecord⟩
        | some record =>
          refine Prog.meets_done ?_ (fun _ _ _ he => by cases he)
          rintro found c r hfound ⟨-, rfl, rfl, h⟩
          cases hfound
          obtain ⟨hid, hmem⟩ := findProposal_some hfind
          refine ⟨h.toConfined, fun record' hrecord => ?_⟩
          cases hrecord
          exact h.tenant_of hmem hid
      · cases found with
        | none => exact Prog.meets_done (fun _ _ _ ha => by cases ha) (fun _ _ _ _ h => h.1)
        | some record =>
          refine Prog.meets_done ?_ (fun _ _ _ he => by cases he)
          rintro answer c r hanswer ⟨h, hown⟩
          cases hanswer
          exact ⟨h, hown _ rfl⟩

end Operations

/-! ## The endpoints -/

/-- A request to a remediation endpoint, with the ids it draws and the readings of its clock. -/
inductive RouterCall where
  | createProposal (headers : Headers) (body : CreateRemediationRequest) (status : DriftStatus)
      (proposalId : String) (now : Instant)
  | listProposals (headers : Headers) (status : Option String) (limit offset : ℤ)
  | getProposal (headers : Headers) (proposalId : String)
  | evaluateProposalPolicy (process : PolicyProcess) (headers : Headers)
      (proposalId environment : String) (draws : Draws) (clock : ℕ → Instant)
  | approveProposal (headers : Headers) (proposalId : String) (payload : ResolveRemediationRequest)
      (eventId : String) (clock : ℕ → Instant)
  | rejectProposal (headers : Headers) (proposalId : String) (payload : ResolveRemediationRequest)
      (eventId : String) (clock : ℕ → Instant)
  | prepareProposalPr (gitops : GitOpsPullRequestRequest → Except String (Option String))
      (headers : Headers) (proposalId prUrl : String) (now : Instant)
  | markProposalApplied (headers : Headers) (proposalId prUrl : String) (clock : ℕ → Instant)
  | verifyProposal (headers : Headers) (proposalId : String) (inventory : DriftStatus)
      (clock : ℕ → Instant)

namespace RouterCall

variable (server : Server)

/-- The headers of a request. -/
def headers : RouterCall → Headers
  | createProposal headers .. => headers
  | listProposals headers .. => headers
  | getProposal headers .. => headers
  | evaluateProposalPolicy _ headers .. => headers
  | approveProposal headers .. => headers
  | rejectProposal headers .. => headers
  | prepareProposalPr _ headers .. => headers
  | markProposalApplied headers .. => headers
  | verifyProposal headers .. => headers

/-- The program of a request, with the proposals that it shows. -/
def program : RouterCall → StoreM (List RemediationProposalRow)
  | createProposal headers body status proposalId now => do
    return [← Remediation.createProposal server headers body status proposalId now]
  | listProposals headers status limit offset => do
    let page ← Remediation.listProposals server headers status limit offset
    return page.items
  | getProposal headers proposalId => do
    return [← Remediation.getProposal server headers proposalId]
  | evaluateProposalPolicy process headers proposalId environment draws clock => do
    return [← Remediation.evaluateProposalPolicy server process headers proposalId environment
      draws clock]
  | approveProposal headers proposalId payload eventId clock => do
    return [← Remediation.approveProposal server headers proposalId payload eventId clock]
  | rejectProposal headers proposalId payload eventId clock => do
    return [← Remediation.rejectProposal server headers proposalId payload eventId clock]
  | prepareProposalPr gitops headers proposalId prUrl now => do
    return [← Remediation.prepareProposalPr server gitops headers proposalId prUrl now]
  | markProposalApplied headers proposalId prUrl clock => do
    return [← Remediation.markProposalApplied server headers proposalId prUrl clock]
  | verifyProposal headers proposalId inventory clock => do
    return [← Remediation.verifyProposal server headers proposalId inventory clock]

/-- The rows that a request leaves, when it runs alone. -/
def after (call : RouterCall) (fails : ℕ → Option PyError) (rows : List Row) : List Row :=
  (outcome (call.program server) fails rows).2

/-- The proposals that a request shows. -/
def shown (call : RouterCall) (fails : ℕ → Option PyError) (rows : List Row) :
    List RemediationProposalRow := ((outcome (call.program server) fails rows).1.toOption).getD []

/-- The request comes with a token that is bound to a tenant. -/
def BoundTo (tenant : String) (call : RouterCall) : Prop :=
  ∃ claims, Bound server.py server.signals.auth tenant call.headers claims

end RouterCall

section Requests

variable {server : Server} {tenant : String} {others : List RemediationProposalRow}
  {headers : Headers} {claims : Claims}

theorem KeepsApart.answering {program : StoreM RemediationProposalRow}
    {exception : PyError → PyError} (h : KeepsApart tenant others program) :
    KeepsApart tenant others (answering exception program) :=
  Prog.meets_handle h (fun _ => Prog.meets_done (fun _ _ _ ha => by cases ha) (fun _ _ _ _ h => h))

/-- A request for a tenant is refused, or goes on with that of the token. -/
theorem meets_of_tenant {α β : Type} {x : Except PyError α}
    {scope : Except PyError (Option String)} {operation : Option String → StoreM β}
    {P E : List Row → List Row → Prop} {Q : β → List Row → List Row → Prop}
    (hscope : ∀ found, scope = .ok found → found = some tenant) (hrefused : ∀ c r, P c r → E c r)
    (h : (operation (some tenant)).Meets schema P Q E) :
    (do
      let _ ← Prog.done x
      let tenantId ← Prog.done scope
      operation tenantId : StoreM β).Meets schema P Q E := by
  have herror : ∀ e : PyError, (Prog.done (.error e) : StoreM β).Meets schema P Q E := by
    intro e
    exact Prog.meets_done (fun _ _ _ ha => by cases ha) (fun _ c r _ h => hrefused c r h)
  cases x with
  | error e => exact herror e
  | ok a =>
    cases hfound : scope with
    | error e => exact herror e
    | ok found =>
      rw [hscope found hfound]
      exact h

/-- An operation for the tenant of the request. -/
theorem apart_of_tenant {x : Except PyError String} {bodyTenant : String}
    {operation : Option String → StoreM RemediationProposalRow} {exception : PyError → PyError}
    (hjwt : server.signals.auth.jwtVerify = true)
    (hb : Bound server.py server.signals.auth tenant headers claims)
    (h : KeepsApart tenant others (operation (some tenant))) :
    KeepsApart tenant others (do
      let _ ← Prog.done x
      let tenantId ← Prog.done (requestTenant server headers bodyTenant)
      answering exception (operation tenantId)) :=
  meets_of_tenant (fun _ hfound => hb.requestTenant hjwt hfound) (fun _ _ h => h.2) h.answering

theorem apart_resolveEndpoint (hjwt : server.signals.auth.jwtVerify = true)
    (hisolation : server.signals.auth.tenantIsolation = true)
    (hb : Bound server.py server.signals.auth tenant headers claims) (approved : Bool)
    (proposalId : String) (payload : ResolveRemediationRequest) (eventId : String)
    (clock : ℕ → Instant) :
    KeepsApart tenant others
      (resolveEndpoint server approved headers proposalId payload eventId clock) := by
  unfold resolveEndpoint
  rw [hb.tenantScope hjwt hisolation, Prog.bind_ok]
  cases identityException (resolveApproverIdentity server.py server.signals.auth headers
      payload.reviewer) with
  | error e => exact Prog.meets_done (fun _ _ _ ha => by cases ha) (fun _ _ _ _ h => h.2)
  | ok reviewer => exact KeepsApart.answering (apart_resolveProposal _ _ _ _)

/-- A listing shows proposals of the tenant. -/
theorem settles_listRemediationProposals (status : Option String) (limit offset : ℤ) :
    (listRemediationProposals status limit offset (some tenant)).Settles schema
      (Confined tenant others)
      (fun page rows => Confined tenant others rows ∧ ∀ p ∈ page.items, p.tenantId = tenant)
      (Confined tenant others) := by
  have hfetch : fetchAll.Meets schema (Prog.Clean (Confined tenant others))
      (fun _ => Prog.Clean (Confined tenant others)) (fun c _ => Confined tenant others c) :=
    (meets_fetchAll (fun _ _ h => h.2)).mono (fun _ _ h => h) (fun _ _ _ h => h.2) (fun _ _ h => h)
  refine settles_session ?_ (fun _ _ h => h.1)
  refine Prog.meets_bind hfetch (fun counted => Prog.meets_bind hfetch (fun read => ?_))
  refine Prog.meets_done ?_ (fun _ _ _ he => by cases he)
  rintro page c r hpage ⟨hclean, h⟩
  cases hpage
  refine ⟨⟨hclean ▸ h, fun p hp => ?_⟩, h⟩
  -- an item of the page has passed the filter on the tenant
  have hsorted := List.mem_of_mem_drop (List.mem_of_mem_take hp)
  rw [List.mem_insertionSort] at hsorted
  have hfilter := (List.mem_filter.mp hsorted).2
  simp only [Option.all_some, Bool.and_eq_true, decide_eq_true_eq] at hfilter
  exact hfilter.2

/-- A lookup shows a proposal of the tenant. -/
theorem settles_getRemediationProposal (proposalId : String) :
    (getRemediationProposal proposalId (some tenant)).Settles schema (Confined tenant others)
      (fun found rows => Confined tenant others rows ∧ ∀ p ∈ found, p.tenantId = tenant)
      (Confined tenant others) := by
  refine Prog.settles_bind settles_session_fetchAll (fun read => ?_)
  cases findProposal read proposalId with
  | none => exact Prog.settles_ok (fun rows h => ⟨h.2, fun p hp => by cases hp⟩)
  | some record =>
    dsimp only
    split
    · exact Prog.settles_ok (fun rows h => ⟨h.2, fun p hp => by cases hp⟩)
    · rename_i hsame
      refine Prog.settles_ok (fun rows h => ⟨h.2, fun p hp => ?_⟩)
      cases hp
      simpa using hsame

theorem apart_getProposal (hjwt : server.signals.auth.jwtVerify = true)
    (hb : Bound server.py server.signals.auth tenant headers claims) (proposalId : String) :
    KeepsApart tenant others (getProposal server headers proposalId) := by
  refine meets_of_tenant (fun _ hfound => hb.requestTenant hjwt hfound) (fun _ _ h => h.2) ?_
  refine Prog.meets_bind (R := fun found c _ => Confined tenant others c ∧
    ∀ p ∈ found, p.tenantId = tenant) ?_ (fun found => ?_)
  · refine Prog.Meets.mono (Prog.settles_handle (settles_getRemediationProposal proposalId)
      (fun e => Prog.settles_error (fun _ h => h))) (fun _ _ h => h) (fun _ _ _ h => h.2)
      (fun _ _ h => h.2)
  · cases found with
    | none => exact Prog.meets_done (fun _ _ _ ha => by cases ha) (fun _ _ _ _ h => h.1)
    | some record =>
      refine Prog.meets_done ?_ (fun _ _ _ he => by cases he)
      rintro record' c r hrecord ⟨h, hown⟩
      cases hrecord
      exact ⟨h, hown record rfl⟩

/-- **A bound request** changes no proposal of another tenant, and shows none. -/
theorem apart_program (hjwt : server.signals.auth.jwtVerify = true)
    (hisolation : server.signals.auth.tenantIsolation = true) (call : RouterCall)
    (hb : call.BoundTo server tenant) :
    (call.program server).Meets schema (Prog.Clean (Confined tenant others))
      (fun shown c _ => Confined tenant others c ∧ ∀ p ∈ shown, p.tenantId = tenant)
      (fun c _ => Confined tenant others c) := by
  obtain ⟨claims, hb⟩ := hb
  -- eight of the nine endpoints show the one proposal that they are about
  have hone : ∀ {program : StoreM RemediationProposalRow}, KeepsApart tenant others program →
      (do return [← program] : StoreM (List RemediationProposalRow)).Meets schema
        (Prog.Clean (Confined tenant others))
        (fun shown c _ => Confined tenant others c ∧ ∀ p ∈ shown, p.tenantId = tenant)
        (fun c _ => Confined tenant others c) := by
    intro program hprogram
    refine Prog.meets_bind hprogram (fun record => Prog.meets_done ?_ (fun _ _ _ he => by cases he))
    rintro shown c r hshown ⟨h, hown⟩
    cases hshown
    refine ⟨h, fun p hp => ?_⟩
    rw [List.mem_singleton.mp hp]
    exact hown
  cases call with
  | createProposal headers body status proposalId now =>
    exact hone (apart_of_tenant hjwt hb (apart_createFromDrift hb.nonempty _ _ _ _))
  | listProposals headers status limit offset =>
    refine Prog.meets_bind (meets_of_tenant (fun _ hfound => hb.requestTenant hjwt hfound)
      (fun _ _ h => h.2) (Prog.Meets.mono (Prog.settles_handle
        (settles_listRemediationProposals status limit offset)
        (fun e => Prog.settles_error (fun _ h => h))) (fun _ _ h => h) (fun _ _ _ h => h.2)
        (fun _ _ h => h.2))) (fun page => ?_)
    refine Prog.meets_done ?_ (fun _ _ _ he => by cases he)
    rintro shown c r hshown h
    cases hshown
    exact h
  | getProposal headers proposalId => exact hone (apart_getProposal hjwt hb proposalId)
  | evaluateProposalPolicy process headers proposalId environment draws clock =>
    exact hone (apart_of_tenant hjwt hb (apart_evaluatePolicy process environment _ draws))
  | approveProposal headers proposalId payload eventId clock =>
    exact hone (apart_resolveEndpoint hjwt hisolation hb true _ _ _ _)
  | rejectProposal headers proposalId payload eventId clock =>
    exact hone (apart_resolveEndpoint hjwt hisolation hb false _ _ _ _)
  | prepareProposalPr gitops headers proposalId prUrl now =>
    exact hone (apart_of_tenant hjwt hb (apart_preparePrDraft gitops _ now))
  | markProposalApplied headers proposalId prUrl clock =>
    exact hone (apart_of_tenant hjwt hb (apart_markApplied _))
  | verifyProposal headers proposalId inventory clock =>
    exact hone (apart_of_tenant hjwt hb (apart_verifyRuntime inventory true))

/-- **One bound request.** -/
theorem after_bound (hjwt : server.signals.auth.jwtVerify = true)
    (hisolation : server.signals.auth.tenantIsolation = true) (call : RouterCall)
    (hb : call.BoundTo server tenant) (fails : ℕ → Option PyError) {rows : List Row}
    (hkeys : (rows.map Row.key).Nodup) :
    Confined tenant (ofOthers tenant rows) (call.after server fails rows) ∧
      ∀ p ∈ call.shown server fails rows, p.tenantId = tenant := by
  obtain ⟨hok, herror⟩ := apart_program hjwt hisolation call hb fails (.ofRows rows)
    ⟨rfl, hkeys, rfl⟩
  unfold RouterCall.shown RouterCall.after outcome
  cases hresult : ((call.program server).run schema fails (.ofRows rows)).1 with
  | ok shown => exact hok shown hresult
  | error e => exact ⟨herror e hresult, fun p hp => absurd hp List.not_mem_nil⟩

theorem ofTenant_eq {other : String} {rows rows' : List Row} (hne : other ≠ tenant)
    (h : ofOthers tenant rows' = ofOthers tenant rows) :
    ofTenant other rows' = ofTenant other rows := by
  have hfilter : ∀ rows, ofTenant other rows
      = (ofOthers tenant rows).filter (fun p => p.tenantId = other) := by
    intro rows
    unfold ofTenant ofOthers
    rw [List.filter_filter]
    refine List.filter_congr (fun p _ => ?_)
    by_cases hp : p.tenantId = other
    · simp [hp, hne]
    · simp [hp]
  rw [hfilter, hfilter, h]

open RouterCall in
/-- **Tenants are apart at the remediation endpoints.**  Let every request of a run be on a server
that verifies tokens and isolates tenants, and come with a token that is bound to some tenant.
Whatever fails, each request leaves the proposals of other tenants as they are and shows none of
them; so the proposals of a tenant stay as they are when no token of the run is bound to it. -/
theorem tenants_apart (calls : List ((Server × RouterCall) × (ℕ → Option PyError)))
    (rows : List Row) (hkeys : (rows.map Row.key).Nodup)
    (hisolated : ∀ call ∈ calls, call.1.1.signals.auth.jwtVerify = true ∧
      call.1.1.signals.auth.tenantIsolation = true)
    (hbound : ∀ call ∈ calls, ∃ tenant, call.1.2.BoundTo call.1.1 tenant) :
    EveryStep (uncurry after) (fun request fails rows =>
      ∀ tenant, request.2.BoundTo request.1 tenant →
        ofOthers tenant (request.2.after request.1 fails rows) = ofOthers tenant rows ∧
          ∀ p ∈ request.2.shown request.1 fails rows, p.tenantId = tenant) calls rows ∧
      ∀ tenant, (∀ call ∈ calls, ¬ call.1.2.BoundTo call.1.1 tenant) →
        ofTenant tenant (runCalls (uncurry after) calls rows) = ofTenant tenant rows := by
  induction calls generalizing rows with
  | nil => exact ⟨trivial, fun _ _ => rfl⟩
  | cons call calls ih =>
    -- the first request is bound to some tenant; the others of the run come later
    obtain ⟨holder, hholder⟩ := hbound call List.mem_cons_self
    obtain ⟨hjwt, hisolation⟩ := hisolated call List.mem_cons_self
    have hstep := after_bound hjwt hisolation call.1.2 hholder call.2 hkeys
    obtain ⟨hevery, hrest⟩ := ih (call.1.2.after call.1.1 call.2 rows) hstep.1.keys
      (fun later hlater => hisolated later (List.mem_cons_of_mem _ hlater))
      (fun later hlater => hbound later (List.mem_cons_of_mem _ hlater))
    refine ⟨⟨fun tenant hb => ?_, hevery⟩, fun tenant hnone => ?_⟩
    · obtain ⟨hconfined, hshown⟩ := after_bound hjwt hisolation call.1.2 hb call.2 hkeys
      exact ⟨hconfined.others, hshown⟩
    · have hne : tenant ≠ holder := by
        rintro rfl
        exact hnone call List.mem_cons_self hholder
      calc ofTenant tenant (runCalls (uncurry after) (call :: calls) rows)
          = ofTenant tenant (runCalls (uncurry after) calls
              (call.1.2.after call.1.1 call.2 rows)) := rfl
        _ = ofTenant tenant (call.1.2.after call.1.1 call.2 rows) :=
            hrest tenant (fun later hlater => hnone later (List.mem_cons_of_mem _ hlater))
        _ = ofTenant tenant rows := ofTenant_eq hne hstep.1.others

end Requests

/-! ### A token of one tenant -/

/-- The token of a deployment job. -/
def jobClaims : Claims :=
  [("sub", .str "job"), ("tenant", .str "finance"), ("roles", .arr [.str "runtime-service"])]

/-- A proposal of each of two tenants, with its pull request. -/
def twoTenants : List Row :=
  [("p1", "finance"), ("p2", "search")].map (fun (proposalId, tenantId) => .proposal
    (NewProposal.row {
      tenantId := tenantId, status := .prCreated, source := "inventory_drift"
      remediationKind := "reprobe", driftSnapshot := probed false
      selectedAction := { kind := .reprobe, title := "", description := "" } } proposalId 0))

/-- The job applies both proposals. -/
def applyBoth (server : Server) (headers : Headers) :
    List ((Server × RouterCall) × (ℕ → Option PyError)) :=
  ["p1", "p2"].map (fun proposalId =>
    ((server, .markProposalApplied headers proposalId "" (fun _ => 1)), fun _ => none))

theorem valid_job : requireBearerClaims .ascii (Tenancy.tokenServer jobClaims).signals.auth
    Tenancy.bearer = .ok jobClaims := by
  have htoken : bearerToken .ascii Tenancy.bearer = some "t" := by decide +kernel
  unfold requireBearerClaims
  rw [htoken]
  rfl

theorem bound_job (proposalId : String) :
    RouterCall.BoundTo (Tenancy.tokenServer jobClaims) "finance"
      (.markProposalApplied Tenancy.bearer proposalId "" (fun _ => 1)) := by
  refine ⟨jobClaims, valid_job, by decide, Or.inl ?_, ?_⟩
  · decide +kernel
  · have hinside : crossTenantRoles.all (fun role => role ∉ rolesFromClaims .ascii
        (Tenancy.tokenServer jobClaims).signals.auth jobClaims) = true := by decide +kernel
    exact fun role hrole => of_decide_eq_true (List.all_eq_true.mp hinside role hrole)

theorem not_bound_job (proposalId : String) :
    ¬ RouterCall.BoundTo (Tenancy.tokenServer jobClaims) "search"
      (.markProposalApplied Tenancy.bearer proposalId "" (fun _ => 1)) := by
  rintro ⟨claims, hb⟩
  obtain rfl : jobClaims = claims := Except.ok.inj (valid_job.symm.trans hb.valid)
  rcases hb.named with hclaim | ⟨-, hscope⟩
  · exact absurd hclaim (by decide +kernel)
  · exact absurd hscope (by decide +kernel)

/-- Only the proposal of the token's tenant is applied. -/
theorem tenants_apart_job :
    (proposals (runCalls (uncurry RouterCall.after)
        (applyBoth (Tenancy.tokenServer jobClaims) Tenancy.bearer) twoTenants)).map
          RemediationProposalRow.status = [.applied, .prCreated] ∧
    ofTenant "search" (runCalls (uncurry RouterCall.after)
        (applyBoth (Tenancy.tokenServer jobClaims) Tenancy.bearer) twoTenants)
      = ofTenant "search" twoTenants := by
  refine ⟨by decide +kernel, ?_⟩
  refine (tenants_apart (applyBoth (Tenancy.tokenServer jobClaims) Tenancy.bearer)
    twoTenants (by decide) ?_ ?_).2 "search" ?_
  · intro call hcall
    obtain ⟨proposalId, -, rfl⟩ := List.mem_map.mp hcall
    exact ⟨rfl, rfl⟩
  · intro call hcall
    obtain ⟨proposalId, -, rfl⟩ := List.mem_map.mp hcall
    exact ⟨"finance", bound_job proposalId⟩
  · intro call hcall
    obtain ⟨proposalId, -, rfl⟩ := List.mem_map.mp hcall
    exact not_bound_job proposalId

/-- Where headers may name a tenant, a token with a team alone goes where its header says. -/
example :
    let server : Server := { Tenancy.tokenServer [] with
      signals := { (Tenancy.tokenServer []).signals with
        auth := {
          jwtVerify := true, tenantIsolation := true
          verifyBearerToken := fun _ => some
            [("sub", .str "job"), ("team", .str "finance"), ("roles", .str "runtime-service")]
          decodeUnsignedPayload := fun _ => none } } }
    let headers : Headers := Dict.ofList
      [("authorization", "Bearer t"), ("x-ai-tenant", "search")]
    (proposals (runCalls (uncurry RouterCall.after) (applyBoth server headers) twoTenants)).map
      RemediationProposalRow.status = [.prCreated, .applied] := by
  decide +kernel

end ControlPlane.Remediation

/-
# Tenants are isolated from each other (`app/decision_store.py`)

In every state that the store can reach a tenant's reads and resolutions depend on its own
decisions and approvals only, and a resolution touches nobody else's rows, but for overdue
approvals, which anyone may expire.
-/
import ControlPlane.TenantView
import ControlPlane.ApprovalLifecycle

namespace ControlPlane.TenantIsolation

open Transaction

/-! ## The states of the store -/

/-- The statements of the store's methods.  The times of an approval are datetimes. -/
inductive Issued : Stmt Row → Prop
  | select : Issued .select
  | commit : Issued .commit
  | rollback : Issued .rollback
  | step : Issued .step
  | insertDecision (new : NewDecision) (decisionId : String) (now : Instant) :
      Issued (.insert (.decision (new.row decisionId now)))
  | insertApproval (decisionId : String) (ttlSeconds : ℤ) (approvalId : String) (now : Instant) :
      Timestamp.IsDatetime (now + Timestamp.seconds (max ttlSeconds 0)) →
      Issued (.insert (.approval (newApproval decisionId ttlSeconds approvalId now)))
  | insertOther (row : Row) : row.decision? = none → row.approval? = none → Issued (.insert row)
  | expireStale (now : String) : Issued (.change (expireStaleChange now))
  | expire (approvalId now : String) : Issued (.change (expireChange approvalId now))
  | resolve (approvalId : String) (status : ApprovalStatus) (reviewer comment now : String) :
      Issued (.change (resolveChange approvalId status reviewer comment now))
  | consume (approvalId now : String) : Issued (.change (consumeChange approvalId now))
  | deleteAuditMeta (ids : List String) : Issued (.change (deleteAuditMeta ids))
  | deleteApprovals (ids : List String) : Issued (.change (deleteApprovals ids))
  | deleteDecisions (ids : List String) : Issued (.change (deleteDecisions ids))
  | changeOther (c : Change Row) : (∀ r, c.guard r = true → r.decision? = none ∧ r.approval? = none) →
      (∀ r r', c.set r = some r' → r'.key = r.key) → Issued (.change c)

instance : Prog.Quiet Issued := ⟨.select, .commit, .rollback, .step⟩

/-- The rows that any number of programs leave durable, whose statements interleave and fail in
every possible way.  The store may hold rows of an earlier run. -/
def StoreState (rows : List Row) : Prop :=
  ∃ (α : Type) (old : List Row) (code : ℕ → StoreM α) (σ : State RowKey Row PyError α),
    Readable old ∧ (∀ n, (code n).Issues Issued) ∧ Transaction.Reachable schema old code σ ∧
      rows = committedRows σ.cells

/-- The approvals that a call records are given datetimes. -/
def Dated : ApprovalLifecycle.ApprovalCall → Prop
  | .createApproval _ ttlSeconds _ now =>
    Timestamp.IsDatetime (now + Timestamp.seconds (max ttlSeconds 0))
  | _ => True

/-- The methods issue these statements. -/
theorem issues_code (py : PyRuntime) {call : ApprovalLifecycle.ApprovalCall} (h : Dated call) :
    (call.code py).Issues Issued := by
  cases call with
  | createDecision new decisionId now =>
    exact Prog.issues_bind (issues_createDecision (.insertDecision _ _ _)) (fun _ => trivial)
  | createApproval decisionId ttlSeconds approvalId now =>
    exact Prog.issues_bind (issues_createApproval (.insertApproval _ _ _ _ h)) (fun _ => trivial)
  | getApproval approvalId tenantId clock =>
    exact Prog.issues_bind (issues_getApproval (.expire approvalId)) (fun _ => trivial)
  | listApprovals status limit offset tenantId now =>
    exact Prog.issues_bind (issues_listApprovals (.expireStale _)) (fun _ => trivial)
  | countApprovals status now =>
    exact Prog.issues_bind (issues_countApprovals (.expireStale _)) (fun _ => trivial)
  | expireStaleApprovals now =>
    exact Prog.issues_bind (issues_expireStaleApprovals (.expireStale _)) (fun _ => trivial)
  | resolveApproval approvalId status reviewer comment tenantId forbidSelfApproval clock =>
    exact Prog.issues_bind (issues_resolveApproval (.expire approvalId)
      (fun _ now => .resolve _ _ _ _ now)) (fun _ => trivial)
  | consumeApproval approvalId now =>
    exact Prog.issues_bind (issues_consumeApproval (.consume _ _)) (fun _ => trivial)
  | consumeAndAudit approvalId decisionId actor requestDigest eventId clock =>
    exact Prog.issues_bind (issues_consumeAndAudit (.consume _ _) (.insertOther _ rfl rfl))
      (fun _ => trivial)
  | purgeRetained retentionDays dryRun limit clock =>
    exact Prog.issues_bind (issues_purgeRetained (.expireStale _) .deleteAuditMeta .deleteApprovals
      .deleteDecisions) (fun _ => trivial)

/-! ## What holds in every state -/

/-- An approval has a time that Python reads. -/
def TimeReads (r : Row) : Prop :=
  ∀ a, r.approval? = some a → (Timestamp.parseIso a.expiresAt).isSome

/-- What a statement does to a row: a new approval has a datetime, and an update keeps the key and
the time. -/
inductive Edit : Option Row → Option Row → Prop
  | insert (r : Row) : TimeReads r → Edit none (some r)
  | update (r r' : Row) : r'.key = r.key → (TimeReads r → TimeReads r') → Edit (some r) (some r')
  | delete (r : Row) : Edit (some r) none

theorem timeReads_of_none {r : Row} (h : r.approval? = none) : TimeReads r := by
  intro a ha
  rw [h] at ha
  cases ha

theorem edit_update {guard : ApprovalRow → Bool} {set : ApprovalRow → ApprovalRow}
    (hid : ∀ a, (set a).approvalId = a.approvalId) (htime : ∀ a, (set a).expiresAt = a.expiresAt)
    (r : Row) (h : (updateApprovals guard set).guard r = true) :
    Edit (some r) ((updateApprovals guard set).set r) := by
  cases r with
  | approval a =>
    refine .update _ _ (congrArg RowKey.approval (hid a)) (fun hreads b hb => ?_)
    cases hb
    rw [htime a]
    exact hreads a rfl
  | _ => cases h

theorem Issued.follows {s : Stmt Row} (h : Issued s) : Follows Edit s := by
  cases h with
  | select => trivial
  | commit => trivial
  | rollback => trivial
  | step => trivial
  | insertDecision new decisionId now => exact .insert _ (timeReads_of_none rfl)
  | insertApproval decisionId ttlSeconds approvalId now hdated =>
    refine .insert _ (fun a ha => ?_)
    cases ha
    exact Timestamp.parseIso_isoformat hdated
  | insertOther row _ hrow => exact .insert _ (timeReads_of_none hrow)
  | expireStale now => exact edit_update (fun _ => rfl) (fun _ => rfl)
  | expire approvalId now => exact edit_update (fun _ => rfl) (fun _ => rfl)
  | resolve approvalId status reviewer comment now => exact edit_update (fun _ => rfl) (fun _ => rfl)
  | consume approvalId now => exact edit_update (fun _ => rfl) (fun _ => rfl)
  | deleteAuditMeta ids => exact fun r _ => .delete r
  | deleteApprovals ids => exact fun r _ => .delete r
  | deleteDecisions ids => exact fun r _ => .delete r
  | changeOther c hguard hkey =>
    intro r hr
    cases hset : c.set r with
    | none => exact .delete r
    | some r' =>
      have hsame := hkey r r' hset
      refine .update r r' hsame (fun _ => timeReads_of_none ?_)
      obtain ⟨-, hnone⟩ := hguard r hr
      cases r' with
      | approval b =>
        cases r with
        | approval a => cases hnone
        | _ => cases hsame
      | _ => rfl

/-- **Every state** has distinct keys and times that Python reads. -/
theorem StoreState.readable {rows : List Row} (h : StoreState rows) : Readable rows := by
  obtain ⟨α, old, code, σ, hold, hcode, hreach, rfl⟩ := h
  have hkey : ∀ (_ : ℕ) r r', Edit (some r) (some r') → schema.key r' = schema.key r := by
    rintro - r r' hedit
    cases hedit with
    | update _ _ hkey _ => exact hkey
  have hsound : SoundCells schema TimeReads (fun _ => Edit) σ.cells :=
    (hreach.sound hkey hold.keys
      (fun r hr a ha => hold.times a (List.mem_filterMap.mpr ⟨r, hr, ha⟩))
      (fun n => (hcode n).mono (fun _ hs => hs.follows))).2
  refine ⟨hsound.nodup_committedRows, fun a ha => ?_⟩
  obtain ⟨cell, hcell, hnewest⟩ := List.mem_filterMap.mp ((mem_approvals _).mp ha)
  obtain ⟨v, hv, hrow⟩ := mem_of_newest hnewest
  have hall : ∀ v ∈ cell.trail, ∀ r, v.row = some r → TimeReads r := by
    refine (hsound.sound cell hcell).trail.all_rows (fun _ hr => hr) ?_ ?_
    · rintro - r hedit
      cases hedit with
      | insert _ hreads => exact hreads
    · rintro - r r' hedit hreads
      cases hedit with
      | update _ _ _ hkeep => exact hkeep hreads
  exact hall v (cell.committed_suffix.subset hv) _ hrow a rfl

/-! ## What a resolution changes -/

/-- Every row of another tenant is as it was, or an overdue approval that has expired. -/
def SparesOthers (tenant : String) (clock : ℕ → Instant) (rows rows' : List Row) : Prop :=
  ∃ f : Row → Row, rows' = rows.map f ∧ ∀ r ∈ rows, f r = r ∨
    ∃ a, r = .approval a ∧
      ((findDecision rows a.decisionId).any (fun d => d.owner = tenant) = true ∨
        overdue clock a = true ∧ f r = .approval (lapse clock a))

section Resolutions

variable {rows : List Row} {tenant approvalId : String} {clock : ℕ → Instant}

theorem sparesOthers_refl : SparesOthers tenant clock rows rows :=
  ⟨id, (List.map_id rows).symm, fun _ _ => Or.inl rfl⟩

/-- An update of the pending approval with an id. -/
theorem sparesOthers_update {set : ApprovalRow → ApprovalRow} (h : Readable rows)
    {a : ApprovalRow} (hfind : findApproval rows approvalId = some a)
    (hspares : (findDecision rows a.decisionId).any (fun d => d.owner = tenant) = true ∨
      overdue clock a = true ∧ set a = lapse clock a) :
    SparesOthers tenant clock rows ((updateApprovals
      (fun a => a.approvalId = approvalId ∧ a.status = .pending) set).apply rows) := by
  refine ⟨_, updateApprovals_apply, fun r hr => ?_⟩
  cases r with
  | approval b =>
    unfold updatedRow updatedApproval
    dsimp only
    by_cases hguard : b.approvalId = approvalId ∧ b.status = .pending
    · obtain ⟨hid, hmem⟩ := findApproval_some hfind
      have hsame : b = a := h.approval_unique ((mem_approvals rows).mpr hr) hmem
        (hguard.1.trans hid.symm)
      refine Or.inr ⟨b, rfl, ?_⟩
      rw [if_pos (decide_eq_true hguard), hsame]
      rcases hspares with howned | ⟨hdue, hset⟩
      · exact Or.inl howned
      · exact Or.inr ⟨hdue, congrArg Row.approval hset⟩
    · rw [if_neg (fun htrue => hguard (of_decide_eq_true htrue))]
      exact Or.inl rfl
  | _ => exact Or.inl rfl

theorem sparesOthers_lapsed (h : Readable rows) :
    SparesOthers tenant clock rows (lapsed rows approvalId clock) := by
  unfold lapsed
  split
  · rename_i hany
    obtain ⟨a, hfind, hdue⟩ := (Option.any_eq_true _ _).mp hany
    refine sparesOthers_update h hfind (Or.inr ⟨hdue, ?_⟩)
    unfold lapse
    rw [if_pos hdue]
  · exact sparesOthers_refl

variable {py : PyRuntime} {reviewer : String} {forbidSelfApproval : Bool}

/-- What a tenant resolves is its own. -/
theorem owned_of_resolvable {a : ApprovalRow} {d : Option DecisionRow}
    (h : Resolvable py rows approvalId reviewer (some tenant) forbidSelfApproval clock a d) :
    (findDecision rows a.decisionId).any (fun d => d.owner = tenant) = true := by
  obtain ⟨-, hd⟩ := joinDecision_some h.joined
  have hd' : findDecision rows a.decisionId = d := hd.symm
  rw [hd']
  cases d with
  | none =>
    have hjoin := h.joined
    unfold joinDecision at hjoin
    rw [h.approval, Option.bind_some] at hjoin
    dsimp only at hjoin
    rw [← hd, if_pos ⟨rfl, rfl⟩] at hjoin
    cases hjoin
  | some d =>
    rw [Option.any_some]
    refine decide_eq_true ?_
    by_contra howner
    have hchecked := h.checked
    rw [checkResolvable_foreign howner] at hchecked
    cases hchecked

/-- **A resolution spares the rows of other tenants**, whatever fails. -/
theorem sparesOthers_resolveApproval (h : Readable rows) (status : ApprovalStatus)
    (comment : String) (fails : ℕ → Option PyError) :
    SparesOthers tenant clock rows (outcome (resolveApproval py approvalId status reviewer comment
      (some tenant) forbidSelfApproval clock) fails rows).2 := by
  by_cases hstatus : status = .approved ∨ status = .rejected
  · by_cases hresolvable : ∃ a d,
        Resolvable py rows approvalId reviewer (some tenant) forbidSelfApproval clock a d
    · obtain ⟨a, d, hresolvable⟩ := hresolvable
      have hresolved : SparesOthers tenant clock rows
          (resolvedRows rows approvalId reviewer clock status comment) :=
        sparesOthers_update h hresolvable.approval (Or.inl (owned_of_resolvable hresolvable))
      have hdurable : ∀ i : ℕ, SparesOthers tenant clock rows (if i ≤ 3 then rows
          else resolvedRows rows approvalId reviewer clock status comment) := by
        intro i
        split
        · exact sparesOthers_refl
        · exact hresolved
      exact (executes_resolveApproval h.keys hstatus hresolvable).committed fails
        (fun i _ _ _ => hdurable i) (fun _ => hdurable 7)
    · have hspares : ∀ rows', rows' = rows ∨ rows' = lapsed rows approvalId clock →
          SparesOthers tenant clock rows rows' := by
        rintro _ (rfl | rfl)
        · exact sparesOthers_refl
        · exact sparesOthers_lapsed h
      refine settled_outcome ((settles_resolveApproval_refused
        (fun a d hr => hresolvable ⟨a, d, hr⟩)).mono (fun _ hP => hP) ?_ hspares) fails rfl
      exact fun _ _ hnever => hnever.elim
  · unfold resolveApproval
    rw [if_pos (not_or.mp hstatus)]
    exact sparesOthers_refl

end Resolutions

/-! ## Which approvals are the tenant's -/

section Owned

variable {rows : List Row} {tenant : String} {a : ApprovalRow} {d : DecisionRow}

theorem approval?_of_owner (h : Readable rows) (ha : a ∈ approvals rows)
    (hd : findDecision rows a.decisionId = some d) :
    (tenantView tenant rows).approval? a.approvalId = if d.owner = tenant then some a else none := by
  have hfind : findApproval rows a.approvalId = some a := by
    cases hfind : findApproval rows a.approvalId with
    | none => exact absurd (decide_eq_true rfl) (List.find?_eq_none.mp hfind a ha)
    | some b =>
      obtain ⟨hid, hb⟩ := findApproval_some hfind
      rw [h.approval_unique hb ha hid]
  rw [approval?_view h, hfind, Option.filter_some, hd, Option.any_some]
  simp only [decide_eq_true_eq]

theorem decision?_of_owner (h : Readable rows)
    (hd : findDecision rows a.decisionId = some d) :
    (tenantView tenant rows).decision? a.decisionId = if d.owner = tenant then some d else none := by
  rw [decision?_view h, hd, Option.filter_some]
  simp only [decide_eq_true_eq]

/-- An approval is on some page if the tenant owns it and its decision names a tenant. -/
theorem onPage_iff (h : Readable rows) (htenant : tenant ≠ "") (ha : a ∈ approvals rows)
    (hd : findDecision rows a.decisionId = some d) (now : Instant) :
    (∃ status limit offset page,
      answer (listApprovals status limit offset (some tenant) now) rows = .ok page ∧
        ∃ b ∈ page.items, b.approvalId = a.approvalId) ↔ d.owner = tenant ∧ d.tenantId ≠ "" := by
  have hid : ∀ b, (lapseStale now b).approvalId = b.approvalId := by
    intro b
    unfold lapseStale updatedApproval
    split <;> rfl
  have hdid : ∀ b, (lapseStale now b).decisionId = b.decisionId := by
    intro b
    unfold lapseStale updatedApproval
    split <;> rfl
  constructor
  · rintro ⟨status, limit, offset, page, hanswer, b, hb, hba⟩
    rw [answer_listApprovals h htenant] at hanswer
    cases hanswer
    have hlisted : b ∈ (tenantView tenant rows).listed status now :=
      (List.mem_insertionSort _).mp (List.mem_of_mem_drop (List.mem_of_mem_take hb))
    unfold TenantView.listed at hlisted
    obtain ⟨hmap, hcond⟩ := List.mem_filter.mp hlisted
    obtain ⟨c, hc, rfl⟩ := List.mem_map.mp hmap
    have hca : c = a := by
      refine h.approval_unique (List.mem_filter.mp hc).1 ha ?_
      rw [← hid c]
      exact hba
    rw [Bool.and_eq_true, hca, hdid, decision?_of_owner h hd] at hcond
    by_cases howner : d.owner = tenant
    · rw [if_pos howner, Option.any_some] at hcond
      exact ⟨howner, of_decide_eq_true hcond.2⟩
    · rw [if_neg howner] at hcond
      cases hcond.2
  · rintro ⟨howner, hne⟩
    have hview : a ∈ (tenantView tenant rows).approvals := by
      refine List.mem_filter.mpr ⟨ha, ?_⟩
      rw [hd, Option.any_some]
      exact decide_eq_true howner
    have hlisted : lapseStale now a
        ∈ (tenantView tenant rows).listed (lapseStale now a).status.name now := by
      refine List.mem_filter.mpr ⟨List.mem_map_of_mem hview, ?_⟩
      rw [hdid, decision?_of_owner h hd, if_pos howner, Option.any_some, Bool.and_eq_true]
      exact ⟨decide_eq_true rfl, decide_eq_true hne⟩
    -- the page that starts with it
    obtain ⟨i, hi, hget⟩ := List.mem_iff_getElem.mp ((List.mem_insertionSort
      (fun a b : ApprovalRow => a.createdAt ≤ b.createdAt)).mpr hlisted)
    refine ⟨(lapseStale now a).status.name, 500, i, _, answer_listApprovals h htenant _ _ _ _,
      lapseStale now a, ?_, hid a⟩
    show _ ∈ ((((tenantView tenant rows).listed _ now).insertionSort _).drop
      (max 0 (i : ℤ)).toNat).take (max 1 (min (500 : ℤ) 500)).toNat
    rw [show (max 0 (i : ℤ)).toNat = i by omega, List.drop_eq_getElem_cons hi, hget]
    exact List.mem_cons_self

/-- Without a tenant no approval is refused as not found. -/
theorem checkResolvable_found (py : PyRuntime) (approvalId reviewer : String)
    (forbidSelfApproval : Bool) (a : ApprovalRow) (d : Option DecisionRow) (text : String) :
    checkResolvable py approvalId reviewer none forbidSelfApproval a d ≠ .error (.keyError text) := by
  unfold checkResolvable
  dsimp only
  rw [Option.any_none, if_neg Bool.false_ne_true]
  split
  · exact fun h => by cases h
  split
  · exact fun h => by cases h
  split
  · exact fun h => by cases h
  · exact fun h => by cases h

/-- The four paths take the approval `a` of the decision `d` for the tenant's when `d` names the
tenant. -/
structure AgreeOn (py : PyRuntime) (rows : List Row) (tenant : String) (a : ApprovalRow)
    (d : DecisionRow) : Prop where
  getDecision : (∃ r, answer (getDecision d.decisionId (some tenant)) rows = .ok (some r)) ↔
    d.tenantId = tenant
  getApproval : ∀ clock,
    (∃ b, answer (getApproval a.approvalId (some tenant) clock) rows = .ok (some b)) ↔
      d.tenantId = tenant
  listApprovals : ∀ now, (∃ status limit offset page,
    answer (listApprovals status limit offset (some tenant) now) rows = .ok page ∧
      ∃ b ∈ page.items, b.approvalId = a.approvalId) ↔ d.tenantId = tenant
  resolveApproval : ∀ status reviewer comment forbidSelfApproval clock,
    status = .approved ∨ status = .rejected →
      (answer (resolveApproval py a.approvalId status reviewer comment (some tenant)
        forbidSelfApproval clock) rows ≠ .error (.keyError s!"approval not found: {a.approvalId}") ↔
          d.tenantId = tenant)

/-- **The four paths agree** on the approvals of decisions that name their tenant. -/
theorem agreeOn {py : PyRuntime} (h : Readable rows) (htenant : tenant ≠ "")
    (ha : a ∈ approvals rows) (hd : findDecision rows a.decisionId = some d)
    (hnamed : d.tenantId ≠ "") : AgreeOn py rows tenant a d := by
  have howner : d.owner = tenant ↔ d.tenantId = tenant := by
    rw [tenantId_eq_iff htenant]
    exact ⟨fun ho => ⟨ho, hnamed⟩, And.left⟩
  refine ⟨?_, fun clock => ?_, fun now => ?_, ?_⟩
  · rw [← howner, answer_getDecision h, (findDecision_some hd).1]
    unfold TenantView.getDecision
    rw [decision?_of_owner h hd]
    split
    · rename_i ho
      exact iff_of_true ⟨_, rfl⟩ ho
    · rename_i ho
      refine iff_of_false ?_ ho
      rintro ⟨r, hr⟩
      cases hr
  · rw [← howner, answer_getApproval h]
    unfold TenantView.getApproval
    rw [approval?_of_owner h ha hd]
    split
    · rename_i ho
      exact iff_of_true ⟨_, rfl⟩ ho
    · rename_i ho
      refine iff_of_false ?_ ho
      rintro ⟨r, hr⟩
      cases hr
  · rw [onPage_iff h htenant ha hd now, ← howner]
    exact ⟨And.left, fun ho => ⟨ho, hnamed⟩⟩
  · intro status reviewer comment forbidSelfApproval clock hstatus
    rw [← howner, answer_resolveApproval h]
    unfold TenantView.resolveApproval
    rw [if_neg (fun hne => hstatus.elim hne.1 hne.2), approval?_of_owner h ha hd]
    by_cases ho : d.owner = tenant
    · rw [if_pos ho]
      dsimp only
      refine iff_of_true (fun hnotfound => ?_) ho
      cases hcheck : checkResolvable py a.approvalId reviewer none forbidSelfApproval
          (lapse clock a) ((tenantView tenant rows).decision? a.decisionId) with
      | ok _ =>
        rw [hcheck] at hnotfound
        cases hnotfound
      | error e =>
        rw [hcheck] at hnotfound
        have herror : e = .keyError s!"approval not found: {a.approvalId}" :=
          Except.error.inj hnotfound
        rw [herror] at hcheck
        exact checkResolvable_found _ _ _ _ _ _ _ hcheck
    · rw [if_neg ho]
      exact iff_of_false (fun hne => hne rfl) ho

end Owned

/-! ## Isolation -/

/-- **A tenant is told nothing of the others and changes nothing of theirs.**  In states with the
same view of the tenant its reads and resolutions return the same, a resolution spares the rows
of other tenants, and the four paths agree on what is the tenant's where a decision names one. -/
theorem tenant_isolation (py : PyRuntime) (tenant : String) (htenant : tenant ≠ "") :
    (∀ rows₁ rows₂, StoreState rows₁ → StoreState rows₂ →
      tenantView tenant rows₁ = tenantView tenant rows₂ →
      (∀ decisionId, answer (getDecision decisionId (some tenant)) rows₁
        = answer (getDecision decisionId (some tenant)) rows₂) ∧
      (∀ approvalId clock, answer (getApproval approvalId (some tenant) clock) rows₁
        = answer (getApproval approvalId (some tenant) clock) rows₂) ∧
      (∀ status limit offset now,
        answer (listApprovals status limit offset (some tenant) now) rows₁
          = answer (listApprovals status limit offset (some tenant) now) rows₂) ∧
      (∀ approvalId status reviewer comment forbidSelfApproval clock,
        answer (resolveApproval py approvalId status reviewer comment (some tenant)
            forbidSelfApproval clock) rows₁
          = answer (resolveApproval py approvalId status reviewer comment (some tenant)
            forbidSelfApproval clock) rows₂)) ∧
    (∀ rows, StoreState rows →
      ∀ approvalId status reviewer comment forbidSelfApproval clock fails,
        SparesOthers tenant clock rows (outcome (resolveApproval py approvalId status reviewer
          comment (some tenant) forbidSelfApproval clock) fails rows).2) ∧
    (∀ rows, StoreState rows → ∀ a ∈ approvals rows, ∀ d,
      findDecision rows a.decisionId = some d → d.tenantId ≠ "" →
        AgreeOn py rows tenant a d) := by
  refine ⟨fun rows₁ rows₂ h₁ h₂ hview => ⟨?_, ?_, ?_, ?_⟩, ?_, ?_⟩
  · intro decisionId
    rw [answer_getDecision h₁.readable, answer_getDecision h₂.readable, hview]
  · intro approvalId clock
    rw [answer_getApproval h₁.readable, answer_getApproval h₂.readable, hview]
  · intro status limit offset now
    rw [answer_listApprovals h₁.readable htenant, answer_listApprovals h₂.readable htenant, hview]
  · intro approvalId status reviewer comment forbidSelfApproval clock
    rw [answer_resolveApproval h₁.readable, answer_resolveApproval h₂.readable, hview]
  · intro rows h approvalId status reviewer comment forbidSelfApproval clock fails
    exact sparesOthers_resolveApproval h.readable status comment fails
  · intro rows h a ha d hd hnamed
    exact agreeOn h.readable htenant ha hd hnamed

/-! ## Two tenants -/

/-- A decision of a team that waits for approval. -/
def waiting (team : String) : NewDecision where
  requestId := "r"
  finalVerdict := .approvalRequired
  policyBundleId := ""
  policyDigest := ""
  team := team
  tenantId := ""
  environment := "production"
  model := "llama3.1:8b"
  subject := "alice"
  reasons := []
  stages := []
  request := {}
  requestDigest := ""
  agentCapabilityDigest := ""
  toolsCapabilityDigest := ""

open ApprovalLifecycle in
/-- Two teams ask for approval. -/
def askingCalls : ℕ → ApprovalCall
  | 0 => .createDecision (waiting "platform") "d1" 0
  | 1 => .createApproval "d1" 3600 "a1" 0
  | 2 => .createDecision (waiting "search") "d2" 0
  | 3 => .createApproval "d2" 0 "a2" 0
  | _ => .expireStaleApprovals 0

/-- The rows after the calls of a schedule. -/
def rowsAfter (order : List ℕ) : List Row :=
  committedRows ((State.init schema [] (fun n => (askingCalls n).code .ascii)).schedule schema
    order).cells

theorem storeState_rowsAfter (order : List ℕ) : StoreState (rowsAfter order) := by
  refine ⟨_, [], _, _, ⟨List.nodup_nil, fun _ h => absurd h List.not_mem_nil⟩, fun n => ?_,
    Reachable.schedule _ _ order, rfl⟩
  refine issues_code .ascii ?_
  match n with
  | 0 => trivial
  | 1 => exact ⟨by decide, by decide⟩
  | 2 => trivial
  | 3 => exact ⟨by decide, by decide⟩
  | _ + 4 => trivial

/-- Both teams have asked, or the first one alone. -/
def bothAsked : List Row :=
  rowsAfter (List.replicate 5 0 ++ List.replicate 5 1 ++ List.replicate 5 2 ++ List.replicate 5 3)

/-- The first team alone has asked. -/
def firstAsked : List Row := rowsAfter (List.replicate 5 0 ++ List.replicate 5 1)

/-- The first team is told the same in both states, and its approval is its own on every path. -/
theorem tenant_isolation_asked :
    (approvals bothAsked).map ApprovalRow.approvalId = ["a1", "a2"] ∧
      (approvals firstAsked).map ApprovalRow.approvalId = ["a1"] ∧
      (∀ approvalId clock, answer (getApproval approvalId (some "platform") clock) bothAsked
        = answer (getApproval approvalId (some "platform") clock) firstAsked) ∧
      ∃ a d, a ∈ approvals bothAsked ∧ findDecision bothAsked a.decisionId = some d ∧
        AgreeOn .ascii bothAsked "platform" a d := by
  obtain ⟨hsame, -, hagree⟩ := tenant_isolation .ascii "platform" (by decide)
  refine ⟨by decide +kernel, by decide +kernel, ?_, ?_⟩
  · exact (hsame bothAsked firstAsked (storeState_rowsAfter _) (storeState_rowsAfter _) rfl).2.1
  · refine ⟨newApproval "d1" 3600 "a1" 0, (waiting "platform").row "d1" 0, ?_, rfl, ?_⟩
    · exact List.mem_cons_self
    · exact hagree bothAsked (storeState_rowsAfter _) _ List.mem_cons_self _ rfl (by decide)

end ControlPlane.TenantIsolation

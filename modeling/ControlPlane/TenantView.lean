/-
# What one tenant sees of the store

The methods that take a tenant decide in different ways whether a row is the tenant's: by the
tenant of the decision as it is read, by a comparison in Python with a fallback to the team, by
a join on the column.  What they return depends on the decisions and approvals of the tenant
only (`TenantView`), and each of them is an operation on these.
-/
import ControlPlane.Resolution

namespace ControlPlane

open Transaction

/-! ## One tenant -/

/-- The tenant that owns a decision: a decision without a tenant belongs to its team. -/
def DecisionRow.owner (d : DecisionRow) : String := orElse d.tenantId d.team

/-- The decisions and the approvals of one tenant. -/
structure TenantView where
  decisions : List DecisionRow
  approvals : List ApprovalRow

/-- What the tenant owns in the store; an approval belongs to the owner of its decision. -/
def tenantView (tenant : String) (rows : List Row) : TenantView where
  decisions := (decisions rows).filter (fun d => d.owner = tenant)
  approvals := (approvals rows).filter
    (fun a => (findDecision rows a.decisionId).any (fun d => d.owner = tenant))

/-- An approval after `_expire_if_needed`. -/
def lapse (clock : ℕ → Instant) (a : ApprovalRow) : ApprovalRow :=
  if overdue clock a then
    { a with status := .expired, resolvedAt := some (Timestamp.isoformat (clock 1)) }
  else a

/-- An approval after `_expire_stale`. -/
def lapseStale (now : Instant) : ApprovalRow → ApprovalRow :=
  updatedApproval (fun a => a.status = .pending ∧ a.expiresAt ≤ Timestamp.isoformat now)
    (fun a => { a with status := .expired, resolvedAt := some (Timestamp.isoformat now) })

namespace TenantView

variable (v : TenantView)

/-- The decision with an id. -/
def decision? (decisionId : String) : Option DecisionRow :=
  v.decisions.find? (fun d => d.decisionId = decisionId)

/-- The approval with an id. -/
def approval? (approvalId : String) : Option ApprovalRow :=
  v.approvals.find? (fun a => a.approvalId = approvalId)

/-- What `get_decision` answers to the tenant. -/
def getDecision (decisionId : String) : Option DecisionRow :=
  (v.decision? decisionId).map DecisionRow.record

/-- What `get_approval` answers to it. -/
def getApproval (approvalId : String) (clock : ℕ → Instant) : Option ApprovalRow :=
  (v.approval? approvalId).map (lapse clock)

/-- The approvals with a status, of the decisions that name their tenant. -/
def listed (status : String) (now : Instant) : List ApprovalRow :=
  (v.approvals.map (lapseStale now)).filter (fun a => a.status.name = status &&
    (v.decision? a.decisionId).any (fun d => d.tenantId ≠ ""))

/-- What `list_approvals` answers to it. -/
def listApprovals (status : String) (limit offset : ℤ) (now : Instant) : ApprovalPage :=
  let limit := (max 1 (min limit 500)).toNat
  let offset := (max 0 offset).toNat
  { items := (((v.listed status now).insertionSort
      (fun a b => a.createdAt ≤ b.createdAt)).drop offset).take limit
    total := (v.listed status now).length
    limit := limit
    offset := offset }

/-- What `resolve_approval` answers to it. -/
def resolveApproval (py : PyRuntime) (approvalId : String) (status : ApprovalStatus)
    (reviewer comment : String) (forbidSelfApproval : Bool) (clock : ℕ → Instant) :
    Except PyError ApprovalRow :=
  if status ≠ .approved ∧ status ≠ .rejected then
    .error (.valueError "status must be 'approved' or 'rejected'")
  else
    match v.approval? approvalId with
    | none => .error (.keyError s!"approval not found: {approvalId}")
    | some a =>
      (checkResolvable py approvalId reviewer none forbidSelfApproval (lapse clock a)
        (v.decision? a.decisionId)).map
          (fun _ => resolvedApproval reviewer clock status comment (lapse clock a))

end TenantView

/-! ## What the operations return -/

section Refinement

variable {rows : List Row} {tenant : String}

/-- The keys are distinct, and every approval has a time that Python reads. -/
structure Readable (rows : List Row) : Prop where
  keys : (rows.map Row.key).Nodup
  times : ∀ a ∈ approvals rows, (Timestamp.parseIso a.expiresAt).isSome

theorem Readable.decision_unique (h : Readable rows) {d d' : DecisionRow} (hd : d ∈ decisions rows)
    (hd' : d' ∈ decisions rows) (hid : d.decisionId = d'.decisionId) : d = d' :=
  Row.decision.inj (List.inj_on_of_nodup_map h.keys ((mem_decisions rows).mp hd)
    ((mem_decisions rows).mp hd') (congrArg RowKey.decision hid))

theorem Readable.approval_unique (h : Readable rows) {a a' : ApprovalRow} (ha : a ∈ approvals rows)
    (ha' : a' ∈ approvals rows) (hid : a.approvalId = a'.approvalId) : a = a' :=
  Row.approval.inj (List.inj_on_of_nodup_map h.keys ((mem_approvals rows).mp ha)
    ((mem_approvals rows).mp ha') (congrArg RowKey.approval hid))

/-- Where a search has one answer at most, filtering before it is filtering after it. -/
theorem find?_filter_of_unique {α : Type} {l : List α} {p q : α → Bool}
    (h : ∀ a ∈ l, ∀ b ∈ l, q a = true → q b = true → a = b) :
    (l.filter p).find? q = (l.find? q).filter p := by
  cases hfind : l.find? q with
  | none =>
    rw [Option.filter_none, List.find?_eq_none]
    intro a ha
    exact List.find?_eq_none.mp hfind a (List.mem_filter.mp ha).1
  | some a =>
    have ha := List.mem_of_find?_eq_some hfind
    have hq := List.find?_some hfind
    have hsame : ∀ b ∈ l.filter p, q b = true → b = a :=
      fun b hb hqb => h b (List.mem_filter.mp hb).1 a ha hqb hq
    cases hp : p a with
    | true =>
      rw [Option.filter_some_pos hp]
      obtain ⟨b, hb⟩ := Option.isSome_iff_exists.mp
        (List.find?_isSome.mpr ⟨a, List.mem_filter.mpr ⟨ha, hp⟩, hq⟩)
      rw [hb, hsame b (List.mem_of_find?_eq_some hb) (List.find?_some hb)]
    | false =>
      rw [Option.filter_some_neg hp, List.find?_eq_none]
      intro b hb hqb
      rw [hsame b hb hqb, List.mem_filter, hp] at hb
      exact Bool.false_ne_true hb.2

theorem decision?_view (h : Readable rows) (decisionId : String) :
    (tenantView tenant rows).decision? decisionId
      = (findDecision rows decisionId).filter (fun d => d.owner = tenant) := by
  refine find?_filter_of_unique (fun d hd d' hd' hid hid' => ?_)
  exact h.decision_unique hd hd' ((of_decide_eq_true hid).trans (of_decide_eq_true hid').symm)

theorem approval?_view (h : Readable rows) (approvalId : String) :
    (tenantView tenant rows).approval? approvalId = (findApproval rows approvalId).filter
      (fun a => (findDecision rows a.decisionId).any (fun d => d.owner = tenant)) := by
  refine find?_filter_of_unique (fun a ha a' ha' hid hid' => ?_)
  exact h.approval_unique ha ha' ((of_decide_eq_true hid).trans (of_decide_eq_true hid').symm)

/-- **A decision is read from the view.** -/
theorem answer_getDecision (h : Readable rows) (decisionId : String) :
    answer (getDecision decisionId (some tenant)) rows
      = .ok ((tenantView tenant rows).getDecision decisionId) := by
  have hcode : getDecision decisionId (some tenant) = session fetchAll >>= fun rows =>
      .done (.ok (((findDecision rows decisionId).filter (fun d => d.owner = tenant)).map
        DecisionRow.record)) := by
    unfold getDecision
    congr 1
    funext rows'
    cases findDecision rows' decisionId with
    | none => rfl
    | some d =>
      show (if decide (d.owner ≠ tenant) then _ else _ : StoreM (Option DecisionRow)) = _
      rw [Option.filter_some]
      by_cases howner : d.owner = tenant
      · rw [if_neg (by simpa using howner), if_pos (decide_eq_true howner)]
        rfl
      · rw [if_pos (decide_eq_true howner), if_neg (by simpa using howner)]
        rfl
  rw [hcode, answer_bind_done, answer_session, run_fetchAll]
  unfold TenantView.getDecision
  rw [decision?_view h]
  rfl

/-! ### Expiry -/

theorem isExpired_of_isSome {text : String} (h : (Timestamp.parseIso text).isSome)
    (now : Instant) : ∃ expired, isExpired text now = .ok expired := by
  obtain ⟨t, ht⟩ := Option.isSome_iff_exists.mp h
  unfold isExpired
  rw [ht]
  exact ⟨_, rfl⟩

/-- Before anything else an overdue approval expires. -/
theorem run_expireIfNeeded (approvalId : String) (clock : ℕ → Instant) {σ : Session Row}
    (h : Readable σ.current) : ∃ σ', (expireIfNeeded approvalId clock).run schema (fun _ => none) σ
      = (.ok (), σ') ∧ σ'.current = lapsed σ.current approvalId clock := by
  unfold expireIfNeeded
  rw [Prog.run_bind_ok run_fetchAll]
  unfold lapsed
  cases hfind : findApproval σ.current approvalId with
  | none => exact ⟨_, rfl, rfl⟩
  | some row =>
    obtain ⟨expired, hexpired⟩ :=
      isExpired_of_isSome (h.times row (findApproval_some hfind).2) (clock 0)
    rw [Option.any_some]
    dsimp only
    by_cases hskip : row.status ≠ .pending ∨ row.expiresAt = ""
    · have hnot : overdue clock row = false := by
        refine decide_eq_false (fun hdue => ?_)
        rcases hskip with hs | hs
        · exact hs hdue.1
        · exact hdue.2.1 hs
      rw [if_pos hskip, hnot]
      exact ⟨_, rfl, rfl⟩
    · obtain ⟨hpending, hexpires⟩ := not_or.mp hskip
      have hdue : overdue clock row = expired := by
        unfold overdue
        rw [hexpired]
        cases expired <;> simp [not_not.mp hpending, hexpires, Except.toOption]
      rw [if_neg hskip, hexpired, Prog.bind_ok, hdue]
      cases expired with
      | false => exact ⟨_, rfl, rfl⟩
      | true => exact ⟨_, rfl, rfl⟩

variable (rows) in
theorem decisions_lapsed (approvalId : String) (clock : ℕ → Instant) :
    decisions (lapsed rows approvalId clock) = decisions rows := by
  unfold lapsed
  split
  · exact decisions_expire _ _
  · rfl

variable (rows) in
theorem keys_lapsed (approvalId : String) (clock : ℕ → Instant) :
    (lapsed rows approvalId clock).map Row.key = rows.map Row.key := by
  unfold lapsed
  split
  · exact keys_expire _ _
  · rfl

variable (rows) in
theorem findApproval_lapsed (approvalId : String) (clock : ℕ → Instant) :
    findApproval (lapsed rows approvalId clock) approvalId
      = (findApproval rows approvalId).map (lapse clock) := by
  unfold lapsed
  cases hfind : findApproval rows approvalId with
  | none =>
    rw [Option.any_none, if_neg (by decide), hfind]
    rfl
  | some a =>
    rw [Option.any_some, Option.map_some]
    unfold lapse
    cases hdue : overdue clock a with
    | false => rw [if_neg (by decide), if_neg (by decide), hfind]
    | true =>
      rw [if_pos rfl, if_pos rfl]
      have hid : ∀ a : ApprovalRow, ({ a with
          status := .expired, resolvedAt := some (Timestamp.isoformat (clock 1)) } :
          ApprovalRow).approvalId = a.approvalId := fun _ => rfl
      refine (findApproval_update hid approvalId).trans ?_
      rw [hfind, Option.map_some]
      unfold updatedApproval
      rw [if_pos (decide_eq_true ⟨(findApproval_some hfind).1, (of_decide_eq_true hdue).1⟩)]

theorem decisionId_lapse (clock : ℕ → Instant) (a : ApprovalRow) :
    (lapse clock a).decisionId = a.decisionId := by
  unfold lapse
  split <;> rfl

/-- **An approval is read from the view.** -/
theorem answer_getApproval (h : Readable rows) (approvalId : String) (clock : ℕ → Instant) :
    answer (getApproval approvalId (some tenant) clock) rows
      = .ok ((tenantView tenant rows).getApproval approvalId clock) := by
  obtain ⟨σ, hexpire, hrows⟩ := run_expireIfNeeded approvalId clock
    (σ := .ofRows rows) h
  unfold getApproval TenantView.getApproval
  rw [answer_session, Prog.run_bind_ok hexpire, Prog.run_bind_ok run_fetchAll, hrows,
    approval?_view h, show (Session.ofRows rows).current = rows from rfl, findApproval_lapsed]
  cases hfind : findApproval rows approvalId with
  | none => rfl
  | some a =>
    rw [Option.map_some, Option.filter_some]
    dsimp only
    rw [Prog.run_bind_ok run_fetchAll]
    dsimp only
    rw [decisions_lapsed, decisionId_lapse, show (decisions rows).find? (fun d =>
      d.decisionId = a.decisionId) = findDecision rows a.decisionId from rfl]
    cases findDecision rows a.decisionId with
    | none => rfl
    | some d =>
      rw [Option.any_some]
      show (Prog.run _ _ (if d.owner ≠ tenant then _ else _ : StoreM (Option ApprovalRow)) _).1 = _
      by_cases howner : d.owner = tenant
      · rw [if_neg (not_not.mpr howner), if_pos (decide_eq_true howner)]
        rfl
      · rw [if_pos howner, if_neg (by simpa using howner)]
        rfl

theorem any_decisions (h : Readable rows) (decisionId : String) (p : DecisionRow → Bool) :
    (decisions rows).any (fun d => d.decisionId = decisionId && p d)
      = (findDecision rows decisionId).any p := by
  cases hfind : findDecision rows decisionId with
  | none =>
    rw [Option.any_none, List.any_eq_false]
    intro d hd hboth
    rw [Bool.and_eq_true] at hboth
    exact List.find?_eq_none.mp hfind d hd hboth.1
  | some d =>
    obtain ⟨hid, hd⟩ := findDecision_some hfind
    rw [Option.any_some, Bool.eq_iff_iff, List.any_eq_true]
    constructor
    · rintro ⟨d', hd', hboth⟩
      rw [Bool.and_eq_true, decide_eq_true_eq] at hboth
      rw [← h.decision_unique hd' hd (hboth.1.trans hid.symm)]
      exact hboth.2
    · exact fun hp => ⟨d, hd, by rw [Bool.and_eq_true]; exact ⟨decide_eq_true hid, hp⟩⟩

/-- A decision names a tenant if the tenant owns it and it names any. -/
theorem tenantId_eq_iff (htenant : tenant ≠ "") (d : DecisionRow) :
    d.tenantId = tenant ↔ d.owner = tenant ∧ d.tenantId ≠ "" := by
  unfold DecisionRow.owner orElse
  split
  · rename_i hempty
    rw [hempty]
    exact ⟨fun h => absurd h.symm htenant, fun h => absurd rfl h.2⟩
  · rename_i hne
    exact ⟨fun h => ⟨h, hne⟩, And.left⟩

/-- The page of a tenant is computed from its view. -/
theorem approvalsWith_view (h : Readable rows) (htenant : tenant ≠ "") (status : String)
    (now : Instant) :
    approvalsWith status (some tenant) ((expireStaleChange (Timestamp.isoformat now)).apply rows)
      = (tenantView tenant rows).listed status now := by
  have hid : ∀ a, (lapseStale now a).decisionId = a.decisionId := by
    intro a
    unfold lapseStale updatedApproval
    split <;> rfl
  have happrovals : approvals ((expireStaleChange (Timestamp.isoformat now)).apply rows)
      = (approvals rows).map (lapseStale now) := approvals_update
  have hdecisions : decisions ((expireStaleChange (Timestamp.isoformat now)).apply rows)
      = decisions rows := decisions_update
  unfold approvalsWith TenantView.listed
  rw [happrovals, hdecisions]
  unfold tenantView
  dsimp only
  rw [List.filter_map, List.filter_map, List.filter_filter]
  congr 1
  refine List.filter_congr (fun a _ => ?_)
  have hview : (tenantView tenant rows).decision? a.decisionId
      = (findDecision rows a.decisionId).filter (fun d => d.owner = tenant) := decision?_view h _
  unfold tenantView at hview
  have hany := any_decisions h a.decisionId (fun d => d.tenantId = tenant)
  simp only [Function.comp_apply, Option.all_some, hid, Bool.decide_and, hany, hview]
  rw [Bool.and_assoc]
  congr 1
  cases findDecision rows a.decisionId with
  | none => rfl
  | some d =>
    rw [Option.any_some, Option.filter_some, Option.any_some]
    by_cases howner : d.owner = tenant
    · simp [howner, tenantId_eq_iff htenant]
    · simp [howner, tenantId_eq_iff htenant]

/-- **A page is read from the view.** -/
theorem answer_listApprovals (h : Readable rows) (htenant : tenant ≠ "") (status : String)
    (limit offset : ℤ) (now : Instant) :
    answer (listApprovals status limit offset (some tenant) now) rows
      = .ok ((tenantView tenant rows).listApprovals status limit offset now) := by
  unfold listApprovals TenantView.listApprovals
  rw [← approvalsWith_view h htenant, answer_session]
  rfl

theorem checkResolvable_owner {py : PyRuntime} {approvalId reviewer : String}
    {forbidSelfApproval : Bool} {a : ApprovalRow} {d : DecisionRow} (howner : d.owner = tenant) :
    checkResolvable py approvalId reviewer (some tenant) forbidSelfApproval a (some d)
      = checkResolvable py approvalId reviewer none forbidSelfApproval a (some d) := by
  unfold checkResolvable
  dsimp only
  have hpasses : (some tenant).any (fun t => decide (orElse d.tenantId d.team ≠ t)) = false :=
    decide_eq_false (not_not.mpr howner)
  rw [Option.elim_some, if_neg (Bool.eq_false_iff.mp hpasses)]
  rfl

theorem checkResolvable_foreign {py : PyRuntime} {approvalId reviewer : String}
    {forbidSelfApproval : Bool} {a : ApprovalRow} {d : DecisionRow} (howner : d.owner ≠ tenant) :
    checkResolvable py approvalId reviewer (some tenant) forbidSelfApproval a (some d)
      = .error (.keyError s!"approval not found: {approvalId}") := by
  unfold checkResolvable
  dsimp only
  rw [if_pos]
  rw [Option.any_some]
  exact decide_eq_true howner

/-- **A resolution is computed from the view.** -/
theorem answer_resolveApproval (h : Readable rows) (py : PyRuntime) (approvalId : String)
    (status : ApprovalStatus) (reviewer comment : String) (forbidSelfApproval : Bool)
    (clock : ℕ → Instant) :
    answer (resolveApproval py approvalId status reviewer comment (some tenant) forbidSelfApproval
        clock) rows
      = (tenantView tenant rows).resolveApproval py approvalId status reviewer comment
          forbidSelfApproval clock := by
  obtain ⟨σ, hexpire, hrows⟩ := run_expireIfNeeded approvalId clock
    (σ := .ofRows rows) h
  have hcurrent : σ.current = lapsed rows approvalId clock := hrows
  by_cases hstatus : status ≠ .approved ∧ status ≠ .rejected
  · unfold resolveApproval TenantView.resolveApproval
    rw [if_pos hstatus, if_pos hstatus]
    rfl
  have hcode : resolveApproval py approvalId status reviewer comment (some tenant)
      forbidSelfApproval clock = session (resolveInSession py approvalId status reviewer comment
        (some tenant) forbidSelfApproval clock) >>= fun updated => .done (updated.elim
          (.error (.runtimeError s!"approval missing after resolve: {approvalId}")) .ok) := by
    unfold resolveApproval
    rw [if_neg hstatus]
    congr 1
    funext updated
    cases updated <;> rfl
  rw [hcode, answer_bind_done, answer_session]
  unfold resolveInSession TenantView.resolveApproval
  rw [if_neg hstatus, Prog.run_bind_ok hexpire, Prog.run_bind_ok run_fetchAll, hcurrent,
    approval?_view h]
  unfold joinDecision
  rw [findApproval_lapsed, decisions_lapsed]
  cases hfind : findApproval rows approvalId with
  | none => rfl
  | some a =>
    rw [Option.map_some, Option.bind_some, Option.filter_some]
    dsimp only
    rw [decisionId_lapse, show (decisions rows).find? (fun d =>
      d.decisionId = a.decisionId) = findDecision rows a.decisionId from rfl]
    cases hdecision : findDecision rows a.decisionId with
    | none => rfl
    | some d =>
      rw [Option.any_some, if_neg (fun hnone => by cases hnone.2)]
      dsimp only
      by_cases howner : d.owner = tenant
      · rw [if_pos (decide_eq_true howner)]
        dsimp only
        rw [decision?_view h, hdecision, Option.filter_some, if_pos (decide_eq_true howner),
          checkResolvable_owner howner]
        cases hcheck : checkResolvable py approvalId reviewer none forbidSelfApproval
            (lapse clock a) (some d) with
        | error e => rfl
        | ok _ =>
          have hlapsed : findApproval (lapsed rows approvalId clock) approvalId
              = some (lapse clock a) := by
            rw [findApproval_lapsed, hfind]
            rfl
          have hpending := checkResolvable_ok hcheck
          have hcount : (lapsed rows approvalId clock).countP (resolveChange approvalId status
              reviewer comment (Timestamp.isoformat (clock 2))).guard = 1 :=
            countP_resolve (keys_lapsed rows approvalId clock ▸ h.keys) hlapsed hpending _
          have hresolved : findApproval (resolvedRows (lapsed rows approvalId clock) approvalId
              reviewer clock status comment) approvalId
                = some (resolvedApproval reviewer clock status comment (lapse clock a)) :=
            findApproval_resolved hlapsed hpending
          rw [Prog.bind_ok, Prog.run_bind_ok (run_execute _)]
          dsimp only
          rw [hcount, if_neg (not_not.mpr rfl), Prog.run_bind_ok run_commit,
            Prog.run_bind_ok run_fetchAll]
          dsimp only
          rw [show findApproval ((resolveChange approvalId status reviewer comment
            (Timestamp.isoformat (clock 2))).apply _) _ = _ from hresolved]
          rfl
      · rw [if_neg (by simpa using howner), checkResolvable_foreign howner]
        rfl

end Refinement

end ControlPlane

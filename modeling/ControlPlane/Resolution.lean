/-
# When an approval is resolved

Whether `resolve_approval` goes through is decided by what it finds in the store (`Resolvable`).
A resolution that goes through issues a fixed number of statements, and becomes durable with one
of them; one that does not can only let an overdue approval expire.
-/
import ControlPlane.Redemption

namespace ControlPlane

open Transaction

section Resolution

variable (py : PyRuntime) (rows : List Row) (approvalId reviewer : String)
  (tenantId : Option String) (forbidSelfApproval : Bool) (clock : ℕ → Instant)

/-! ## What a resolution depends on -/

/-- The approval is pending and its time is over, as `_expire_if_needed` sees it. -/
def overdue (a : ApprovalRow) : Bool :=
  a.status = .pending ∧ a.expiresAt ≠ "" ∧
    (isExpired a.expiresAt (clock 0)).toOption = some true

/-- The rows after `_expire_if_needed` has returned. -/
def lapsed : List Row :=
  if (findApproval rows approvalId).any (overdue clock) then
    (expireChange approvalId (Timestamp.isoformat (clock 1))).apply rows
  else rows

/-- The approval `a` of the decision `d`, if there is one, can be resolved. -/
structure Resolvable (a : ApprovalRow) (d : Option DecisionRow) : Prop where
  joined : joinDecision rows approvalId tenantId = some (a, d)
  timely : a.expiresAt = "" ∨ isExpired a.expiresAt (clock 0) = .ok false
  checked : checkResolvable py approvalId reviewer tenantId forbidSelfApproval a d = .ok ()

/-- An approval after its resolution. -/
def resolvedApproval (status : ApprovalStatus) (comment : String) (a : ApprovalRow) :
    ApprovalRow :=
  { a with
    status := status, reviewer := some reviewer, reviewComment := some comment
    resolvedAt := some (Timestamp.isoformat (clock 2)) }

/-- The rows after a resolution. -/
def resolvedRows (status : ApprovalStatus) (comment : String) : List Row :=
  (resolveChange approvalId status reviewer comment (Timestamp.isoformat (clock 2))).apply rows

section Facts

variable {py rows approvalId reviewer tenantId forbidSelfApproval clock} {a : ApprovalRow}
  {d : Option DecisionRow}

theorem joinDecision_some (h : joinDecision rows approvalId tenantId = some (a, d)) :
    findApproval rows approvalId = some a ∧
      d = (decisions rows).find? (fun d => d.decisionId = a.decisionId) := by
  unfold joinDecision at h
  obtain ⟨b, hfind, hb⟩ := Option.bind_eq_some_iff.mp h
  dsimp only at hb
  split at hb
  · cases hb
  · cases hb
    exact ⟨hfind, rfl⟩

/-- Only a pending approval passes the checks. -/
theorem checkResolvable_ok
    (h : checkResolvable py approvalId reviewer tenantId forbidSelfApproval a d = .ok ()) :
    a.status = .pending := by
  unfold checkResolvable at h
  dsimp only at h
  split at h
  · cases h
  · split at h
    · cases h
    · split at h
      · cases h
      · rename_i hpending
        exact not_not.mp hpending

theorem Resolvable.approval
    (h : Resolvable py rows approvalId reviewer tenantId forbidSelfApproval clock a d) :
    findApproval rows approvalId = some a := (joinDecision_some h.joined).1

theorem Resolvable.pending
    (h : Resolvable py rows approvalId reviewer tenantId forbidSelfApproval clock a d) :
    a.status = .pending := checkResolvable_ok h.checked

/-- What has lapsed is not pending. -/
theorem overdue_lapsed (hfind : findApproval (lapsed rows approvalId clock) approvalId = some a)
    (hpending : a.status = .pending) :
    (findApproval rows approvalId).any (overdue clock) = false := by
  by_contra hover
  rw [Bool.not_eq_false] at hover
  obtain ⟨b, hb, hdue⟩ := (Option.any_eq_true _ _).mp hover
  unfold lapsed at hfind
  have hid : ∀ (now : String) (a : ApprovalRow), ({ a with
      status := .expired, resolvedAt := some now } : ApprovalRow).approvalId = a.approvalId :=
    fun _ _ => rfl
  rw [if_pos hover, show findApproval ((expireChange approvalId (Timestamp.isoformat
    (clock 1))).apply rows) approvalId = _ from findApproval_update (hid _) approvalId, hb,
    Option.map_some, Option.some.injEq] at hfind
  have hguard : b.approvalId = approvalId ∧ b.status = .pending :=
    ⟨(findApproval_some hb).1, (of_decide_eq_true hdue).1⟩
  unfold updatedApproval at hfind
  rw [if_pos (decide_eq_true hguard)] at hfind
  rw [← hfind] at hpending
  cases hpending

end Facts

/-! ## A resolution that does not go through -/

variable {py rows approvalId reviewer tenantId forbidSelfApproval clock}

/-- `_expire_if_needed` commits for itself. -/
theorem meets_expireIfNeeded :
    (expireIfNeeded approvalId clock).Meets schema (Prog.Clean (fun rows' => rows' = rows))
      (fun _ c r => r = c ∧ c = lapsed rows approvalId clock ∧
        ∀ a, findApproval rows approvalId = some a → a.status = .pending → overdue clock a = false →
          a.expiresAt = "" ∨ isExpired a.expiresAt (clock 0) = .ok false)
      (fun c _ => c = rows ∨ c = lapsed rows approvalId clock) := by
  have hleft : ∀ c r, Prog.Clean (fun rows' => rows' = rows) c r →
      c = rows ∨ c = lapsed rows approvalId clock := fun _ _ h => Or.inl h.2
  have hread : fetchAll.Meets schema (Prog.Clean (fun rows' => rows' = rows))
      (fun read c r => read = rows ∧ Prog.Clean (fun rows' => rows' = rows) c r)
      (fun c _ => c = rows ∨ c = lapsed rows approvalId clock) := by
    refine (meets_fetchAll hleft).mono (fun _ _ h => h) ?_ (fun _ _ h => h)
    rintro read c r ⟨hread, hsame, hrows⟩
    exact ⟨hread.trans (hsame.trans hrows), hsame, hrows⟩
  refine Prog.meets_bind hread (fun read => Prog.meets_of_fact (fun hsame => ?_))
  subst hsame
  have hkept : (findApproval read approvalId).any (overdue clock) = false →
      lapsed read approvalId clock = read := by
    intro h
    unfold lapsed
    rw [if_neg (by rw [h]; decide)]
  cases hfind : findApproval read approvalId with
  | none =>
    refine Prog.meets_done ?_ (fun _ _ _ he => nomatch he)
    rintro _ c r - ⟨rfl, rfl⟩
    exact ⟨rfl, (hkept (by rw [hfind]; rfl)).symm, fun _ ha => nomatch ha⟩
  | some row =>
    rw [hfind, Option.any_some] at hkept
    dsimp only
    by_cases hskip : row.status ≠ .pending ∨ row.expiresAt = ""
    · rw [if_pos hskip]
      have hnot : overdue clock row = false := by
        refine decide_eq_false (fun hdue => ?_)
        rcases hskip with hs | hs
        · exact hs hdue.1
        · exact hdue.2.1 hs
      refine Prog.meets_done ?_ (fun _ _ _ he => nomatch he)
      rintro _ c r - ⟨rfl, rfl⟩
      refine ⟨rfl, (hkept hnot).symm, fun a ha hpending _ => Or.inl ?_⟩
      cases ha
      exact hskip.resolve_left (not_not.mpr hpending)
    · rw [if_neg hskip]
      obtain ⟨hpending, hexpires⟩ := not_or.mp hskip
      cases hexpired : isExpired row.expiresAt (clock 0) with
      | error e => exact Prog.meets_done (fun _ _ _ ha => nomatch ha) (fun _ _ _ _ h => Or.inl h.2)
      | ok expired =>
        rw [Prog.bind_ok]
        cases expired with
        | false =>
          have hnot : overdue clock row = false := by
            refine decide_eq_false (fun hdue => ?_)
            have htrue := hdue.2.2
            rw [hexpired] at htrue
            cases htrue
          refine Prog.meets_done ?_ (fun _ _ _ he => nomatch he)
          rintro _ c r - ⟨rfl, rfl⟩
          refine ⟨rfl, (hkept hnot).symm, fun a ha _ _ => Or.inr ?_⟩
          cases ha
          exact hexpired
        | true =>
          have hdue : overdue clock row = true :=
            decide_eq_true ⟨not_not.mp hpending, hexpires, by rw [hexpired]; rfl⟩
          have hrows : lapsed read approvalId clock
              = (expireChange approvalId (Timestamp.isoformat (clock 1))).apply read := by
            unfold lapsed
            rw [if_pos (by rw [hfind]; exact hdue)]
          refine Prog.meets_bind (meets_execute _ hleft) (fun count => ?_)
          refine (meets_commit (fun c r h => ?_)).mono (fun _ _ h => h) ?_ (fun _ _ h => h)
          · obtain ⟨r', ⟨-, hc⟩, -⟩ := h
            exact Or.inl hc
          · rintro _ c r ⟨rfl, c', r', ⟨rfl, rfl⟩, -, rfl⟩
            refine ⟨rfl, hrows.symm, fun a ha _ hnot => ?_⟩
            cases ha
            rw [hdue] at hnot
            cases hnot

/-- **A resolution that does not go through** raises, and can only let the approval expire. -/
theorem settles_resolveApproval_refused {status : ApprovalStatus} {comment : String}
    (h : ∀ a d, ¬ Resolvable py rows approvalId reviewer tenantId forbidSelfApproval clock a d) :
    (resolveApproval py approvalId status reviewer comment tenantId forbidSelfApproval
      clock).Settles schema (fun rows' => rows' = rows) (fun _ _ => False)
      (fun rows' => rows' = rows ∨ rows' = lapsed rows approvalId clock) := by
  unfold resolveApproval
  split
  · exact Prog.settles_error (fun _ h => Or.inl h)
  refine Prog.settles_bind (R := fun _ _ => False) (settles_session ?_ (fun _ _ h => h.elim))
    (fun updated => ?_)
  · unfold resolveInSession
    refine Prog.meets_bind meets_expireIfNeeded (fun _ => ?_)
    have hleft : ∀ c r, (r = c ∧ c = lapsed rows approvalId clock ∧
        ∀ a, findApproval rows approvalId = some a → a.status = .pending → overdue clock a = false →
          a.expiresAt = "" ∨ isExpired a.expiresAt (clock 0) = .ok false) →
        c = rows ∨ c = lapsed rows approvalId clock := fun _ _ h => Or.inr h.2.1
    refine Prog.meets_bind (meets_fetchAll hleft) (fun read => ?_)
    cases hjoin : joinDecision read approvalId tenantId with
    | none => exact Prog.meets_done (fun _ _ _ ha => nomatch ha) (fun _ c r _ h => hleft c r h.2)
    | some found =>
      obtain ⟨a, d⟩ := found
      dsimp only
      cases hcheck : checkResolvable py approvalId reviewer tenantId forbidSelfApproval a d with
      | error e =>
        exact Prog.meets_done (fun _ _ _ ha => nomatch ha) (fun _ c r _ h => hleft c r h.2)
      | ok _ =>
        -- what passes the checks was resolvable from the start
        intro fails σ ⟨hread, hclean, hlapsed, htimely⟩
        have hrows : read = lapsed rows approvalId clock := hread.trans (hclean.trans hlapsed)
        have hfind := (joinDecision_some hjoin).1
        have hpending := checkResolvable_ok hcheck
        have hnot : (findApproval rows approvalId).any (overdue clock) = false :=
          overdue_lapsed (hrows ▸ hfind) hpending
        have hsame : lapsed rows approvalId clock = rows := by
          unfold lapsed
          rw [if_neg (by rw [hnot]; decide)]
        rw [hrows, hsame] at hjoin hfind
        rw [hfind, Option.any_some] at hnot
        exact absurd ⟨hjoin, htimely a hfind hpending hnot, hcheck⟩ (h a d)
  · exact fun _ σ hσ => hσ.2.elim

/-! ## A resolution that goes through -/

section Executes

variable {a : ApprovalRow} {d : Option DecisionRow} {status : ApprovalStatus} {comment : String}

theorem keys_resolvedRows :
    (resolvedRows rows approvalId reviewer clock status comment).map Row.key = rows.map Row.key :=
  keys_update (fun _ => rfl)

theorem decisions_resolvedRows :
    decisions (resolvedRows rows approvalId reviewer clock status comment) = decisions rows :=
  decisions_update

theorem findApproval_resolved (h : findApproval rows approvalId = some a)
    (hpending : a.status = .pending) :
    findApproval (resolvedRows rows approvalId reviewer clock status comment) approvalId
      = some (resolvedApproval reviewer clock status comment a) := by
  have hid : ∀ a : ApprovalRow,
      (resolvedApproval reviewer clock status comment a).approvalId = a.approvalId := fun _ => rfl
  refine (findApproval_update hid approvalId).trans ?_
  rw [h, Option.map_some]
  unfold updatedApproval
  rw [if_pos (decide_eq_true ⟨(findApproval_some h).1, hpending⟩)]

theorem countP_resolve (hkeys : (rows.map Row.key).Nodup)
    (h : findApproval rows approvalId = some a) (hpending : a.status = .pending) (now : String) :
    rows.countP (resolveChange approvalId status reviewer comment now).guard = 1 := by
  obtain ⟨hid, hmem⟩ := findApproval_some h
  refine countP_eq_one (.approval a) hkeys ((mem_approvals rows).mp hmem) ?_ ?_
  · exact decide_eq_true ⟨hid, hpending⟩
  · intro r hr
    cases r with
    | approval b => exact congrArg RowKey.approval ((of_decide_eq_true hr).1.trans hid.symm)
    | _ => cases hr

theorem writes_expireIfNeeded (h : findApproval rows approvalId = some a)
    (htimely : a.expiresAt = "" ∨ isExpired a.expiresAt (clock 0) = .ok false) :
    (expireIfNeeded approvalId clock).Writes schema rows 1 rows () := by
  refine Prog.writes_bind (n := 1) (m := 0) writes_fetchAll ?_
  rw [h]
  dsimp only
  split
  · exact Prog.writes_done ()
  · rename_i hskip
    rw [htimely.resolve_left (not_or.mp hskip).2]
    exact Prog.writes_done ()

/-- **A resolution that goes through** becomes durable with its fourth statement; three more
follow. -/
theorem executes_resolveApproval (hkeys : (rows.map Row.key).Nodup)
    (hstatus : status = .approved ∨ status = .rejected)
    (h : Resolvable py rows approvalId reviewer tenantId forbidSelfApproval clock a d) :
    (resolveApproval py approvalId status reviewer comment tenantId forbidSelfApproval
      clock).Executes schema rows 7
      (fun i => if i ≤ 3 then rows else resolvedRows rows approvalId reviewer clock status comment)
      (resolvedApproval reviewer clock status comment a) := by
  have hcount : rows.countP (resolveChange approvalId status reviewer comment
      (Timestamp.isoformat (clock 2))).guard = 1 := countP_resolve hkeys h.approval h.pending _
  have hcommit : (do commit; let rows ← fetchAll; return findApproval rows approvalId :
      StoreM (Option ApprovalRow)).Commits schema rows
      (resolvedRows rows approvalId reviewer clock status comment) 2
      (fun i => if i ≤ 0 then rows else resolvedRows rows approvalId reviewer clock status comment)
      (some (resolvedApproval reviewer clock status comment a)) := by
    have hread : (do let rows ← fetchAll; return findApproval rows approvalId :
        StoreM (Option ApprovalRow)).Executes schema
        (resolvedRows rows approvalId reviewer clock status comment) 1
        (fun _ => resolvedRows rows approvalId reviewer clock status comment)
        (some (resolvedApproval reviewer clock status comment a)) := by
      rw [← findApproval_resolved h.approval h.pending]
      exact Prog.executes_map executes_fetchAll _
    rw [commit_bind]
    exact Prog.commits_commit hread
  have hupdate : (execute (resolveChange approvalId status reviewer comment
      (Timestamp.isoformat (clock 2)))).Writes schema rows 1
      (resolvedRows rows approvalId reviewer clock status comment) 1 := by
    have hwrite : (execute (resolveChange approvalId status reviewer comment
        (Timestamp.isoformat (clock 2)))).Writes schema rows 1
        (resolvedRows rows approvalId reviewer clock status comment)
        (rows.countP (resolveChange approvalId status reviewer comment
          (Timestamp.isoformat (clock 2))).guard) := writes_execute _
    rw [hcount] at hwrite
    exact hwrite
  have hchecked : (Prog.done (checkResolvable py approvalId reviewer tenantId forbidSelfApproval a d)
      : StoreM Unit).Writes schema rows 0 rows () := by
    rw [h.checked]
    exact Prog.writes_done ()
  have hbody : (resolveInSession py approvalId status reviewer comment tenantId
      forbidSelfApproval clock).Commits schema rows rows 5
      (fun i => if i ≤ 1 + (1 + (0 + (1 + 0))) then rows
        else resolvedRows rows approvalId reviewer clock status comment)
      (some (resolvedApproval reviewer clock status comment a)) := by
    refine Prog.commits_bind (n := 1) (m := 4) (writes_expireIfNeeded h.approval h.timely) ?_
    refine Prog.commits_bind (n := 1) (m := 3) writes_fetchAll ?_
    rw [h.joined]
    refine Prog.commits_bind (n := 0) (m := 3) hchecked ?_
    refine Prog.commits_bind (n := 1) (m := 2) hupdate ?_
    exact hcommit
  unfold resolveApproval
  rw [if_neg (by rcases hstatus with rfl | rfl <;> decide)]
  refine (Prog.executes_bind (n := 7) (m := 0) (executes_session_commits hbody)
    (Prog.executes_done _)).congr (fun i hi => ?_)
  split_ifs <;> first | rfl | omega

end Executes

end Resolution

end ControlPlane

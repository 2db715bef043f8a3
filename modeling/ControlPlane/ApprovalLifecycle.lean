/-
# The life of an approval

Any number of clients create, read, list, expire, resolve, consume and purge approvals,
and their statements interleave in every possible way.  Each method reads a row and later
issues an update that tests the status again; the guards of the updates are all there is
to keep the life of an approval straight.
-/
import ControlPlane.Store.Statements
import Mathlib.Data.List.Chain

namespace ControlPlane.ApprovalLifecycle

open Transaction

/-! ## The calls -/

/-- A call of a method of the store, with the ids it draws and the readings of its clock. -/
inductive ApprovalCall where
  | createDecision (new : NewDecision) (decisionId : String) (now : Instant)
  | createApproval (decisionId : String) (ttlSeconds : ℤ) (approvalId : String) (now : Instant)
  | getApproval (approvalId : String) (tenantId : Option String) (clock : ℕ → Instant)
  | listApprovals (status : String) (limit offset : ℤ) (tenantId : Option String) (now : Instant)
  | countApprovals (status : String) (now : Instant)
  | expireStaleApprovals (now : Instant)
  | resolveApproval (approvalId : String) (status : ApprovalStatus) (reviewer comment : String)
      (tenantId : Option String) (forbidSelfApproval : Bool) (clock : ℕ → Instant)
  | consumeApproval (approvalId : String) (now : Instant)
  | consumeAndAudit (approvalId decisionId actor requestDigest eventId : String)
      (clock : ℕ → Instant)
  | purgeRetained (retentionDays : ℤ) (dryRun : Bool) (limit : ℤ) (clock : ℕ → Instant)

/-- What a call returns. -/
inductive CallResult where
  | id (value : String)
  | approval (row : Option ApprovalRow)
  | page (page : ApprovalPage)
  | count (value : ℕ)
  | resolved (row : ApprovalRow)
  | consumed (value : Bool)
  | purged (result : RetentionPurgeResult)

namespace ApprovalCall

/-- The program of a call. -/
def code (py : PyRuntime) : ApprovalCall → StoreM CallResult
  | createDecision new decisionId now => do
    return .id (← ControlPlane.createDecision new decisionId now false)
  | createApproval decisionId ttlSeconds approvalId now => do
    return .id (← ControlPlane.createApproval decisionId ttlSeconds approvalId now false)
  | getApproval approvalId tenantId clock => do
    return .approval (← ControlPlane.getApproval approvalId tenantId clock)
  | listApprovals status limit offset tenantId now => do
    return .page (← ControlPlane.listApprovals status limit offset tenantId now)
  | countApprovals status now => do
    return .count (← ControlPlane.countApprovals status now)
  | expireStaleApprovals now => do
    return .count (← ControlPlane.expireStaleApprovals now)
  | resolveApproval approvalId status reviewer comment tenantId forbidSelfApproval clock => do
    return .resolved (← ControlPlane.resolveApproval py approvalId status reviewer comment
      tenantId forbidSelfApproval clock)
  | consumeApproval approvalId now => do
    return .consumed (← ControlPlane.consumeApproval approvalId now false)
  | consumeAndAudit approvalId decisionId actor requestDigest eventId clock => do
    return .consumed (← ControlPlane.consumeAndAudit approvalId decisionId actor requestDigest
      eventId clock)
  | purgeRetained retentionDays dryRun limit clock => do
    return .purged (← ControlPlane.purgeRetained retentionDays dryRun limit clock)

/-- The call resolves the approval with the given id. -/
def Resolves (approvalId : String) : ApprovalCall → Prop
  | resolveApproval id .. => id = approvalId
  | _ => False

/-- The call consumes the approval with the given id. -/
def Consumes (approvalId : String) : ApprovalCall → Prop
  | consumeApproval id _ => id = approvalId
  | consumeAndAudit id .. => id = approvalId
  | _ => False

end ApprovalCall

/-! ## What a call can do to a row -/

/-- The moves that a call can make on a row. -/
inductive Move (call : ApprovalCall) : Option Row → Option Row → Prop
  | create (a : ApprovalRow) : a.status = .pending → a.reviewer = none → a.usedAt = none →
      Move call none (some (.approval a))
  | insert (r : Row) : r.approval? = none → Move call none (some r)
  | expire (a : ApprovalRow) (now : String) : a.status = .pending →
      Move call (some (.approval a))
        (some (.approval { a with status := .expired, resolvedAt := some now }))
  | resolve (a : ApprovalRow) (status : ApprovalStatus) (reviewer comment now : String) :
      call.Resolves a.approvalId → a.status = .pending →
      status = .approved ∨ status = .rejected →
      Move call (some (.approval a)) (some (.approval { a with
        status := status, reviewer := some reviewer, reviewComment := some comment
        resolvedAt := some now }))
  | consume (a : ApprovalRow) (now : String) : a.status = .approved →
      Move call (some (.approval a))
        (some (.approval { a with status := .consumed, usedAt := some now }))
  | delete (r : Row) : Move call (some r) none

/-- No move changes the key of a row. -/
theorem Move.key_eq {call : ApprovalCall} {r r' : Row} (h : Move call (some r) (some r')) :
    schema.key r' = schema.key r := by
  cases h <;> rfl

section Follows

variable {call : ApprovalCall}

theorem move_expireStale (now : String) (r : Row) (h : (expireStaleChange now).guard r = true) :
    Move call (some r) ((expireStaleChange now).set r) := by
  cases r with
  | approval a => exact .expire a now (of_decide_eq_true h).1
  | _ => cases h

theorem move_expire (approvalId now : String) (r : Row)
    (h : (expireChange approvalId now).guard r = true) :
    Move call (some r) ((expireChange approvalId now).set r) := by
  cases r with
  | approval a => exact .expire a now (of_decide_eq_true h).2
  | _ => cases h

theorem move_resolve {approvalId : String} {status : ApprovalStatus} (reviewer comment now : String)
    (hcall : call.Resolves approvalId) (hs : status = .approved ∨ status = .rejected) (r : Row)
    (h : (resolveChange approvalId status reviewer comment now).guard r = true) :
    Move call (some r) ((resolveChange approvalId status reviewer comment now).set r) := by
  cases r with
  | approval a =>
    obtain ⟨hid, hpending⟩ := of_decide_eq_true h
    exact .resolve a status reviewer comment now (hid ▸ hcall) hpending hs
  | _ => cases h

theorem move_consume (approvalId now : String) (r : Row)
    (h : (consumeChange approvalId now).guard r = true) :
    Move call (some r) ((consumeChange approvalId now).set r) := by
  cases r with
  | approval a => exact .consume a now (of_decide_eq_true h).2.1
  | _ => cases h

end Follows

/-- **Every method stays within the moves.** -/
theorem issues_code (py : PyRuntime) (call : ApprovalCall) :
    (call.code py).Issues (Follows (Move call)) := by
  cases call with
  | createDecision new decisionId now =>
    exact Prog.issues_bind (issues_createDecision (.insert _ rfl)) (fun _ => trivial)
  | createApproval decisionId ttlSeconds approvalId now =>
    exact Prog.issues_bind (issues_createApproval (.create _ rfl rfl rfl)) (fun _ => trivial)
  | getApproval approvalId tenantId clock =>
    exact Prog.issues_bind (issues_getApproval (move_expire approvalId)) (fun _ => trivial)
  | listApprovals status limit offset tenantId now =>
    exact Prog.issues_bind (issues_listApprovals (move_expireStale _)) (fun _ => trivial)
  | countApprovals status now =>
    exact Prog.issues_bind (issues_countApprovals (move_expireStale _)) (fun _ => trivial)
  | expireStaleApprovals now =>
    exact Prog.issues_bind (issues_expireStaleApprovals (move_expireStale _)) (fun _ => trivial)
  | resolveApproval approvalId status reviewer comment tenantId forbidSelfApproval clock =>
    exact Prog.issues_bind (issues_resolveApproval (move_expire approvalId)
      (fun hs now => move_resolve reviewer comment now rfl hs)) (fun _ => trivial)
  | consumeApproval approvalId now =>
    exact Prog.issues_bind (issues_consumeApproval (move_consume approvalId _)) (fun _ => trivial)
  | consumeAndAudit approvalId decisionId actor requestDigest eventId clock =>
    exact Prog.issues_bind (issues_consumeAndAudit (move_consume approvalId _) (.insert _ rfl))
      (fun _ => trivial)
  | purgeRetained retentionDays dryRun limit clock =>
    exact Prog.issues_bind (issues_purgeRetained (move_expireStale _)
      (fun _ r _ => .delete r) (fun _ r _ => .delete r) (fun _ r _ => .delete r))
      (fun _ => trivial)

/-! ## The history of an approval -/

/-- The status of a row of `approvals`; `none` after the row was purged. -/
def statusOf (row : Option Row) : Option ApprovalStatus :=
  (row.bind Row.approval?).map ApprovalRow.status

/-- The statuses that an approval has had, newest first. -/
def statuses (l : List (Version Row)) : List (Option ApprovalStatus) :=
  l.map (fun v => statusOf v.row)

/-- The edges of the life of an approval; purging ends it. -/
inductive StatusStep : Option ApprovalStatus → Option ApprovalStatus → Prop
  | approve : StatusStep (some .pending) (some .approved)
  | reject : StatusStep (some .pending) (some .rejected)
  | expire : StatusStep (some .pending) (some .expired)
  | consume : StatusStep (some .approved) (some .consumed)
  | purge (s : ApprovalStatus) : StatusStep (some s) none

/-- The statuses, newest first, are a path of `StatusStep` that starts at pending. -/
def StatusPath (l : List (Option ApprovalStatus)) : Prop :=
  l.reverse.IsChain StatusStep ∧ ∀ s ∈ l.getLast?, s = some .pending

/-- Some version was written by a resolving call and took the row from pending to approved
or rejected. -/
def ResolvedBy (calls : ℕ → ApprovalCall) (approvalId : String) (l : List (Version Row)) : Prop :=
  ∃ l₁ v l₂ n, l = l₁ ++ v :: l₂ ∧ v.author = some n ∧ (calls n).Resolves approvalId ∧
    statusOf (newest l₂) = some .pending ∧
    (statusOf v.row = some .approved ∨ statusOf v.row = some .rejected)

section History

variable {calls : ℕ → ApprovalCall} {approvalId : String}

theorem resolvedBy_cons (v : Version Row) (l : List (Version Row)) :
    ResolvedBy calls approvalId (v :: l) ↔ ResolvedBy calls approvalId l ∨
      ∃ n, v.author = some n ∧ (calls n).Resolves approvalId ∧
        statusOf (newest l) = some .pending ∧
        (statusOf v.row = some .approved ∨ statusOf v.row = some .rejected) := by
  constructor
  · rintro ⟨l₁, w, l₂, n, hl, hw⟩
    cases l₁ with
    | nil =>
      obtain ⟨rfl, rfl⟩ := List.cons.inj hl
      exact Or.inr ⟨n, hw⟩
    | cons u l₁ => exact Or.inl ⟨l₁, w, l₂, n, (List.cons.inj hl).2, hw⟩
  · rintro (⟨l₁, w, l₂, n, hl, hw⟩ | ⟨n, hv⟩)
    · exact ⟨v :: l₁, w, l₂, n, by rw [hl]; rfl, hw⟩
    · exact ⟨[], v, l, n, rfl, hv⟩

theorem not_resolvedBy_nil : ¬ ResolvedBy calls approvalId [] := by
  rintro ⟨l₁, v, l₂, n, hl, -⟩
  exact absurd hl.symm (List.append_ne_nil_of_right_ne_nil l₁ (List.cons_ne_nil v l₂))

/-- What is true of the newest version of an approval. -/
structure RowFacts (calls : ℕ → ApprovalCall) (approvalId : String) (l : List (Version Row))
    (a : ApprovalRow) : Prop where
  reviewed : a.reviewer ≠ none ↔ ResolvedBy calls approvalId l
  used : a.usedAt ≠ none ↔ a.status = .consumed

theorem StatusPath.cons {s : Option ApprovalStatus} {l : List (Option ApprovalStatus)}
    (h : StatusPath l) {t : Option ApprovalStatus} (hl : l.head? = some t)
    (hs : StatusStep t s) : StatusPath (s :: l) := by
  have hne : l ≠ [] := by
    rintro rfl
    cases hl
  refine ⟨?_, ?_⟩
  · rw [List.reverse_cons, List.isChain_append]
    refine ⟨h.1, List.isChain_singleton _, ?_⟩
    intro x hx y hy
    rw [List.getLast?_reverse, hl] at hx
    cases hx
    cases hy
    exact hs
  · rw [List.getLast?_cons_of_ne_nil hne]
    exact h.2

/-- **The life of one approval**: its statuses follow the edges, and its newest version has a
reviewer exactly when it was resolved, and a time of use exactly when it is consumed. -/
theorem trail_history {l : List (Version Row)}
    (h : Trail (fun r => r.approval? = none) (fun n => Move (calls n)) l)
    (hkey : ∀ v ∈ l, ∀ r, v.row = some r → r.key = .approval approvalId) :
    StatusPath (statuses l) ∧
      ∀ a, newest l = some (.approval a) → RowFacts calls approvalId l a := by
  induction h with
  | nil =>
    refine ⟨⟨.nil, ?_⟩, ?_⟩
    · intro s hs
      cases hs
    · intro a ha
      cases ha
  | initial row hrow =>
    have hk := hkey _ List.mem_cons_self row rfl
    cases row with
    | approval a => cases hrow
    | _ => cases hk
  | insert n row hmove =>
    have hk := hkey _ List.mem_cons_self row rfl
    cases hmove with
    | insert r hr =>
      cases row with
      | approval a => cases hr
      | _ => cases hk
    | create a hs hreviewer hused =>
      refine ⟨⟨List.isChain_singleton _, ?_⟩, ?_⟩
      · intro s hs'
        cases hs'
        show some a.status = _
        rw [hs]
      · intro a' ha'
        cases ha'
        refine ⟨?_, ?_⟩
        · rw [resolvedBy_cons]
          simp only [hreviewer, not_resolvedBy_nil, newest_nil, statusOf, Option.bind_none,
            Option.map_none, ne_eq, not_true_eq_false, reduceCtorEq, false_and, and_false,
            exists_false, or_self]
        · simp only [hs, hused, ne_eq, not_true_eq_false, reduceCtorEq]
  | move n r row rest hr hmove hrest ih =>
    obtain ⟨hpath, hfacts⟩ := ih (fun v hv => hkey v (List.mem_cons_of_mem _ hv))
    have hhead : ∀ a, r = .approval a → (statuses rest).head? = some (some a.status) := by
      intro a ha
      subst ha
      cases rest with
      | nil => cases hr
      | cons v rest =>
        show some (statusOf v.row) = _
        rw [newest_cons] at hr
        rw [hr]
        rfl
    have hstatus : ∀ a, r = .approval a → statusOf (newest rest) = some a.status := by
      intro a ha
      rw [hr, ha]
      rfl
    cases hmove with
    | expire a now hs =>
      have hf := hfacts a hr
      refine ⟨hpath.cons (hhead a rfl) (hs ▸ .expire), ?_⟩
      intro a' ha'
      cases ha'
      refine ⟨?_, ?_⟩
      · rw [resolvedBy_cons]
        simp only [hf.reviewed, statusOf, Option.bind_some, Row.approval?, Option.map_some,
          Option.some.injEq, reduceCtorEq, or_self, and_false, exists_false, or_false]
      · have hu := hf.used
        rw [hs] at hu
        simp only [hu, reduceCtorEq]
    | resolve a status reviewer comment now hcall hs hst =>
      have hf := hfacts a hr
      have hid : a.approvalId = approvalId := by
        have hk := hkey _ List.mem_cons_self _ rfl
        exact RowKey.approval.inj hk
      refine ⟨hpath.cons (hhead a rfl) ?_, ?_⟩
      · rw [hs]
        rcases hst with rfl | rfl
        · exact .approve
        · exact .reject
      · intro a' ha'
        cases ha'
        refine ⟨?_, ?_⟩
        · rw [resolvedBy_cons, hstatus a rfl, hs]
          constructor
          · intro _
            exact Or.inr ⟨n, rfl, hid ▸ hcall, rfl, hst.imp (congrArg some) (congrArg some)⟩
          · intro _ h
            cases h
        · have hu := hf.used
          rw [hs] at hu
          rcases hst with rfl | rfl
          · simp only [hu, reduceCtorEq]
          · simp only [hu, reduceCtorEq]
    | consume a now hs =>
      have hf := hfacts a hr
      refine ⟨hpath.cons (hhead a rfl) (hs ▸ .consume), ?_⟩
      intro a' ha'
      cases ha'
      refine ⟨?_, ?_⟩
      · rw [resolvedBy_cons]
        simp only [hf.reviewed, statusOf, Option.bind_some, Row.approval?, Option.map_some,
          Option.some.injEq, reduceCtorEq, or_self, and_false, exists_false, or_false]
      · simp only [ne_eq, reduceCtorEq, not_false_eq_true]
    | delete r =>
      refine ⟨?_, ?_⟩
      swap
      · intro a ha
        cases ha
      cases r with
      | approval a => exact hpath.cons (hhead a rfl) (.purge a.status)
      | _ =>
        -- the rows of this cell are approvals
        cases rest with
        | nil => cases hr
        | cons v rest =>
          have hk := hkey v (List.mem_cons_of_mem _ List.mem_cons_self) _ hr
          cases hk

end History

/-! ## Who wins -/

/-- How far an approval has come; no move lowers it. -/
def statusRank : Option Row → ℕ
  | none => 3
  | some (.approval a) => match a.status with
    | .pending => 0
    | .approved => 1
    | _ => 2
  | some _ => 0

theorem statusRank_approval (a : ApprovalRow) : statusRank (some (.approval a))
    = match a.status with | .pending => 0 | .approved => 1 | _ => 2 := rfl

theorem Move.statusRank_le {call : ApprovalCall} {r : Row} {q : Option Row}
    (h : Move call (some r) q) : statusRank (some r) ≤ statusRank q := by
  cases h with
  | expire a now hs => rw [statusRank_approval, hs]; exact Nat.zero_le _
  | resolve a status reviewer comment now _ hs _ =>
    rw [statusRank_approval, hs]; exact Nat.zero_le _
  | consume a now hs => rw [statusRank_approval, hs]; exact Nat.le_succ 1
  | delete r =>
    cases r with
    | approval a =>
      rw [statusRank_approval]
      cases a.status <;> decide
    | _ => exact Nat.zero_le _

/-- The updates that resolve one approval. -/
def IsResolve (approvalId : String) (c : Change Row) : Prop :=
  ∃ status reviewer comment now, (status = .approved ∨ status = .rejected) ∧
    c = resolveChange approvalId status reviewer comment now

/-- The updates that consume one approval. -/
def IsConsume (approvalId : String) (c : Change Row) : Prop :=
  ∃ now, c = consumeChange approvalId now

theorem IsResolve.lifts {approvalId : String} {c : Change Row} {r : Row}
    (h : IsResolve approvalId c) (hr : c.guard r = true) :
    schema.key r = .approval approvalId ∧ statusRank (some r) ≤ 0 ∧ 0 < statusRank (c.set r) := by
  obtain ⟨status, reviewer, comment, now, hs, rfl⟩ := h
  cases r with
  | approval a =>
    obtain ⟨hid, hpending⟩ := of_decide_eq_true hr
    refine ⟨congrArg RowKey.approval hid, ?_, ?_⟩
    · rw [statusRank_approval, hpending]
    · rcases hs with rfl | rfl
      · exact Nat.zero_lt_one
      · exact Nat.zero_lt_two
  | _ => cases hr

theorem IsConsume.lifts {approvalId : String} {c : Change Row} {r : Row}
    (h : IsConsume approvalId c) (hr : c.guard r = true) :
    schema.key r = .approval approvalId ∧ statusRank (some r) ≤ 1 ∧ 1 < statusRank (c.set r) := by
  obtain ⟨now, rfl⟩ := h
  cases r with
  | approval a =>
    obtain ⟨hid, happroved, -⟩ := of_decide_eq_true hr
    refine ⟨congrArg RowKey.approval hid, ?_, Nat.lt_succ_self 1⟩
    rw [statusRank_approval, happroved]
  | _ => cases hr

/-- A resolving call only succeeds with an update that found the approval pending. -/
theorem earns_resolveApproval (py : PyRuntime) (approvalId : String) (status : ApprovalStatus)
    (reviewer comment : String) (tenantId : Option String) (forbidSelfApproval : Bool)
    (clock : ℕ → Instant) (credit : Credit) :
    EndsAt (IsResolve approvalId) (· = .durable) (fun _ => True) credit
      (resolveApproval py approvalId status reviewer comment tenantId forbidSelfApproval
        clock) := by
  unfold resolveApproval
  split
  · exact endsAt_error _
  · rename_i hs
    have hs' : status = .approved ∨ status = .rejected := by
      by_contra hne
      exact hs (not_or.mp hne)
    have hbody : EndsAt (IsResolve approvalId) (· ≠ .none) (fun _ => True) credit
        (resolveInSession py approvalId status reviewer comment tenantId forbidSelfApproval
          clock) := by
      refine endsAt_bind_of_forall (fun _ _ => endsAt_bind_of_forall (fun rows _ => ?_))
      split
      · exact endsAt_error _
      · refine endsAt_bind_of_forall (fun _ _ => ?_)
        refine endsAt_bind (endsAt_execute ⟨status, reviewer, comment, _, hs', rfl⟩) ?_ ?_
        · intro count g _ hg
          split
          · exact endsAt_error _
          · refine endsAt_bind (endsAt_commit hg) (fun _ g _ hg => ?_)
              (fun _ _ h => absurd trivial h)
            rw [hg]
            exact (endsAt_durable _).mono (fun g hg => by rw [hg]; exact fun h => nomatch h)
        · intro count g hcount
          rw [not_not.mp hcount]
          exact endsAt_error _
    refine endsAt_bind (endsAt_session hbody) (fun updated g _ hg => ?_)
      (fun _ _ h => absurd trivial h)
    rw [hg]
    exact endsAt_durable _

/-- A consuming update only reports one row when it found the approval approved. -/
theorem endsAt_consume (approvalId now : String) (credit : Credit) :
    EndsAt (IsConsume approvalId) (· ≠ .none) (fun count => count = 1) credit
      (execute (consumeChange approvalId now)) :=
  Prog.ends_mono (fun _ _ h a ha hone => h a ha (by rw [hone]; exact one_ne_zero))
    (endsAt_execute ⟨now, rfl⟩)

theorem earns_consumeApproval (approvalId : String) (now : Instant) (credit : Credit) :
    EndsAt (IsConsume approvalId) (· = .durable) (fun b => b = true) credit
      (consumeApproval approvalId now false) := by
  refine endsAt_bind (B := fun count => count = 1) (D := (· = .durable)) ?_
    (fun count g _ hg => ?_) (fun count g hcount => ?_)
  · refine endsAt_session (endsAt_bind (endsAt_consume approvalId _ credit)
      (fun count g _ hg => ?_) (fun count g hcount => ?_))
    · refine endsAt_bind (endsAt_commit hg) (fun _ g _ hg => ?_) (fun _ _ h => absurd trivial h)
      exact endsAt_ok (fun _ => by rw [hg]; exact fun h => nomatch h)
    · exact endsAt_bind_of_forall (fun _ _ => endsAt_ok (fun hone => absurd hone hcount))
  · exact endsAt_ok (fun _ => hg)
  · exact endsAt_ok (fun h => absurd (of_decide_eq_true h) hcount)

theorem earns_consumeAndAudit (approvalId decisionId actor requestDigest eventId : String)
    (clock : ℕ → Instant) (credit : Credit) :
    EndsAt (IsConsume approvalId) (· = .durable) (fun b => b = true) credit
      (consumeAndAudit approvalId decisionId actor requestDigest eventId clock) := by
  refine endsAt_transaction (endsAt_bind (D := (· ≠ .none)) (B := fun b => b = true) ?_
    (fun b g hb hg => ?_) (fun b g hb => ?_))
  · refine endsAt_bind (endsAt_consume approvalId _ credit) (fun count g _ hg => ?_)
      (fun count g hcount => ?_)
    · exact endsAt_ok (fun _ => hg)
    · exact endsAt_ok (fun h => absurd (of_decide_eq_true h) hcount)
  · split
    · exact endsAt_ok (fun h => nomatch h)
    · refine endsAt_bind (D := (· ≠ .none)) (B := fun _ => True) ?_
        (fun _ g _ hg => endsAt_ok (fun _ => hg)) (fun _ _ h => absurd trivial h)
      exact endsAt_bind (endsAt_insert hg) (fun _ g _ hg => endsAt_ok (fun _ => hg))
        (fun _ _ h => absurd trivial h)
  · split
    · exact endsAt_ok (fun h => nomatch h)
    · rename_i h
      exact absurd (not_not.mp h) hb

/-! ## Whole runs -/

section Runs

variable {py : PyRuntime} {rows : List Row} {calls : ℕ → ApprovalCall}
  {σ : State RowKey Row PyError CallResult}

/-- The states of a run of the calls, on a store without approvals. -/
structure RunOf (py : PyRuntime) (rows : List Row) (calls : ℕ → ApprovalCall)
    (σ : State RowKey Row PyError CallResult) : Prop where
  keys : (rows.map Row.key).Nodup
  empty : ∀ r ∈ rows, r.approval? = none
  reached : Reachable schema rows (fun n => (calls n).code py) σ

theorem RunOf.sound (h : RunOf py rows calls σ) :
    SoundCells schema (fun r => r.approval? = none) (fun n => Move (calls n)) σ.cells :=
  (Reachable.sound (fun _ _ _ hm => hm.key_eq) h.keys h.empty
    (fun n => issues_code py (calls n)) h.reached).2

/-- The call has returned a value with the property. -/
def Returned (σ : State RowKey Row PyError CallResult) (n : ℕ) (P : CallResult → Prop) : Prop :=
  ∃ result, (σ.calls n).prog = .done (.ok result) ∧ P result

theorem RunOf.earned (h : RunOf py rows calls σ) {hit : Change Row → Prop}
    {B : CallResult → Prop} {n : ℕ}
    (he : EndsAt hit (· = .durable) B .none ((calls n).code py)) (hr : Returned σ n B) :
    Durable hit n σ.cells := by
  obtain ⟨result, hdone, hgood⟩ := hr
  exact Reachable.earned (fun _ _ _ hm => hm.key_eq) h.keys h.empty
    (fun n => issues_code py (calls n)) he h.reached hdone hgood

theorem RunOf.durable_resolve (h : RunOf py rows calls σ) {n : ℕ} {approvalId : String}
    (hn : (calls n).Resolves approvalId) (hr : Returned σ n (fun _ => True)) :
    Durable (IsResolve approvalId) n σ.cells := by
  refine h.earned (B := fun _ => True) ?_ hr
  cases hc : calls n with
  | resolveApproval id status reviewer comment tenantId forbid clock =>
    rw [hc] at hn
    cases hn
    refine endsAt_bind (earns_resolveApproval py _ status reviewer comment tenantId forbid clock
      .none) (fun row g _ hg => ?_) (fun _ _ h => absurd trivial h)
    exact endsAt_ok (fun _ => hg)
  | _ =>
    rw [hc] at hn
    cases hn

theorem RunOf.durable_consume (h : RunOf py rows calls σ) {n : ℕ} {approvalId : String}
    (hn : (calls n).Consumes approvalId) (hr : Returned σ n (fun r => r = .consumed true)) :
    Durable (IsConsume approvalId) n σ.cells := by
  refine h.earned (B := fun r => r = .consumed true) ?_ hr
  have hcode : ∀ p : StoreM Bool,
      EndsAt (IsConsume approvalId) (· = .durable) (fun b => b = true) .none p →
      EndsAt (IsConsume approvalId) (· = .durable) (fun r => r = .consumed true) .none
        (do return CallResult.consumed (← p)) := by
    intro p hp
    refine endsAt_bind hp (fun b g _ hg => endsAt_ok (fun _ => hg)) (fun b g hb => ?_)
    exact endsAt_ok (fun hb' => absurd (CallResult.consumed.inj hb') hb)
  cases hc : calls n with
  | consumeApproval id now =>
    rw [hc] at hn
    cases hn
    exact hcode _ (earns_consumeApproval _ now .none)
  | consumeAndAudit id decisionId actor requestDigest eventId clock =>
    rw [hc] at hn
    cases hn
    exact hcode _ (earns_consumeAndAudit _ decisionId actor requestDigest eventId clock .none)
  | _ =>
    rw [hc] at hn
    cases hn

/-- **The approval state machine.**  In every reachable state of every interleaving, the
committed statuses of every approval are a path of its life, its row has a reviewer exactly
when a resolving call approved or rejected it and a time of use exactly when it is consumed;
and at most one resolving call and at most one consuming call succeeds for an id. -/
theorem approval_state_machine (h : RunOf py rows calls σ) :
    (∀ cell ∈ σ.cells, ∀ approvalId, cell.key = .approval approvalId →
      StatusPath (statuses cell.committed) ∧
      ∀ a, newest cell.committed = some (.approval a) →
        (a.reviewer ≠ none ↔ ResolvedBy calls approvalId cell.committed) ∧
        (a.usedAt ≠ none ↔ a.status = .consumed)) ∧
    (∀ approvalId n m, (calls n).Resolves approvalId → (calls m).Resolves approvalId →
      Returned σ n (fun _ => True) → Returned σ m (fun _ => True) → n = m) ∧
    (∀ approvalId n m, (calls n).Consumes approvalId → (calls m).Consumes approvalId →
      Returned σ n (fun r => r = .consumed true) → Returned σ m (fun r => r = .consumed true) →
      n = m) := by
  have hrank : ∀ n r q, Move (calls n) (some r) q → statusRank (some r) ≤ statusRank q :=
    fun _ _ _ hm => hm.statusRank_le
  refine ⟨?_, ?_, ?_⟩
  · intro cell hcell approvalId hkey
    have hs := h.sound.sound cell hcell
    have hkeyed : ∀ v ∈ cell.committed, ∀ r, v.row = some r → r.key = .approval approvalId :=
      fun v hv r hr => hkey ▸ hs.keyed v (cell.committed_suffix.subset hv) r hr
    obtain ⟨hpath, hfacts⟩ := trail_history (hs.trail.of_suffix cell.committed_suffix) hkeyed
    exact ⟨hpath, fun a ha => ⟨(hfacts a ha).reviewed, (hfacts a ha).used⟩⟩
  · intro approvalId n m hn hm hrn hrm
    refine Durable.unique (a := 0) (k := .approval approvalId) h.sound hrank
      (fun c r hc hr => ?_) (h.durable_resolve hn hrn)
      (h.durable_resolve hm hrm)
    rcases hc with hc | hc <;> exact hc.lifts hr
  · intro approvalId n m hn hm hrn hrm
    refine Durable.unique (a := 1) (k := .approval approvalId) h.sound hrank
      (fun c r hc hr => ?_) (h.durable_consume hn hrn)
      (h.durable_consume hm hrm)
    rcases hc with hc | hc <;> exact hc.lifts hr

end Runs

/-! ## A race -/

/-- A decision that waits for approval. -/
def openDecision : DecisionRow where
  decisionId := "d"
  requestId := "r"
  finalVerdict := .approvalRequired
  policyBundleId := ""
  policyDigest := ""
  team := "platform"
  tenantId := "platform"
  environment := "production"
  model := "llama3.1:8b"
  subject := "alice"
  reasons := []
  stages := []
  request := {}
  requestDigest := ""
  agentCapabilityDigest := ""
  toolsCapabilityDigest := ""
  createdAt := Timestamp.isoformat 0

/-- An approval is created, two reviewers resolve it, and it is consumed. -/
def raceCalls : ℕ → ApprovalCall
  | 0 => .createApproval "d" 3600 "a" 0
  | 1 => .resolveApproval "a" .approved "bob" "" none true (fun _ => Timestamp.seconds 1)
  | 2 => .resolveApproval "a" .rejected "carol" "" none true (fun _ => Timestamp.seconds 1)
  | _ => .consumeApproval "a" (Timestamp.seconds 2)

/-- Both reviewers read the pending row; the second waits for the lock of the first. -/
def raceState : State RowKey Row PyError CallResult :=
  (State.init schema [.decision openDecision] (fun n => (raceCalls n).code .ascii)).schedule
    schema (List.replicate 5 0
      ++ [1, 2, 1, 2, 1, 2, 1, 2, 2, 2, 1, 1, 1, 1, 1, 1, 2, 2, 2, 2, 2, 2]
      ++ List.replicate 8 3)

/-- One of the two reviewers wins. -/
theorem approval_state_machine_race :
    raceState.cells.map (fun cell => statuses cell.committed)
      = [[none], [some .consumed, some .approved, some .pending]] ∧
    ∀ n m, (raceCalls n).Resolves "a" → (raceCalls m).Resolves "a" →
      Returned raceState n (fun _ => True) → Returned raceState m (fun _ => True) → n = m := by
  have hrun : RunOf .ascii [.decision openDecision] raceCalls raceState := by
    refine ⟨by decide, ?_, Reachable.schedule _ _ _⟩
    intro r hr
    rw [List.mem_singleton.mp hr]
    rfl
  exact ⟨by decide +kernel, (approval_state_machine hrun).2.1 "a"⟩

end ControlPlane.ApprovalLifecycle

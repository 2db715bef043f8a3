/-
# The shared connection (`DecisionStore._session` without a pool)

With SQLite every session is on the one connection of the process.  At its end nothing is
committed and nothing is rolled back, so a statement that fails behind a write leaves the write
pending: the next call sees it, and the next commit makes it durable.

The methods of the store that are about policies, approvals and the audit trail, on either
backend.  A call on the shared connection that leaves nothing pending does what some call on the
pool does (`outcome_committing`).
-/
import ControlPlane.Store.Approvals
import ControlPlane.Store.Policies
import ControlPlane.Store.SerialRules

namespace ControlPlane

open Transaction

/-- `self._pg`: connections from a pool, or one shared connection. -/
inductive Backend where
  | pool
  | shared
  deriving DecidableEq, Repr

namespace Backend

variable {α : Type} (b : Backend)

/-- `with self._session() as conn`. -/
def session (body : StoreM α) : StoreM α :=
  match b with
  | pool => ControlPlane.session body
  | shared => body

/-- `with self.transaction() as conn`. -/
def transaction (body : StoreM α) : StoreM α := b.session (Prog.atomically body)

/-- A session of its own with a commit at its end. -/
def committing (body : StoreM α) : StoreM α :=
  b.session do
    let a ← body
    commit
    return a

/-! ## The methods -/

/-- `upsert_policy_bundle_candidate`. -/
def upsertPolicyBundleCandidate (new : NewPolicyBundle) (recordId : String) (now : Instant) :
    StoreM PolicyBundleRow := do
  let rows ← b.session fetchAll
  b.committing (upsertInSession (findPolicyBundle rows new.bundleId new.contentDigest) new recordId
    (Timestamp.isoformat now))

/-- `get_previous_policy_bundle`. -/
def getPreviousPolicyBundle : StoreM (Option PolicyBundleRow) := do
  let rows ← b.session fetchAll
  return selectPolicyBundle rows .previous

/-- `activate_policy_bundle`. -/
def activatePolicyBundle (bundleId contentDigest : String) (now : Instant) :
    StoreM PolicyBundleRow :=
  b.committing (activateInSession bundleId contentDigest (Timestamp.isoformat now))

/-- `rollback_policy_bundle`. -/
def rollbackPolicyBundle (now : Instant) : StoreM PolicyBundleRow :=
  b.committing (rollbackInSession (Timestamp.isoformat now))

/-- `resolve_approval`. -/
def resolveApproval (py : PyRuntime) (approvalId : String) (status : ApprovalStatus)
    (reviewer comment : String) (tenantId : Option String) (forbidSelfApproval : Bool)
    (clock : ℕ → Instant) : StoreM ApprovalRow :=
  if status ≠ .approved ∧ status ≠ .rejected then
    throw (.valueError "status must be 'approved' or 'rejected'")
  else do
    let updated ← b.session
      (resolveInSession py approvalId status reviewer comment tenantId forbidSelfApproval clock)
    match updated with
    | none => throw (.runtimeError s!"approval missing after resolve: {approvalId}")
    | some row => return row

/-- `append_audit_meta`, in a session of its own. -/
def appendAuditMeta (decisionId eventType actor : String) (payload : List (String × Json.Value))
    (eventId : String) (now : Instant) : StoreM String := do
  b.committing (insert (.auditMeta {
    eventId := eventId, decisionId := decisionId, eventType := eventType, actor := actor,
    payload := payload, createdAt := Timestamp.isoformat now }))
  return eventId

/-- The transaction in which `approval_grants_allow` consumes an approval and records it. -/
def consumeAndAudit (approvalId decisionId actor requestDigest eventId : String)
    (clock : ℕ → Instant) : StoreM Bool :=
  b.transaction (consumeInSession approvalId decisionId actor requestDigest eventId clock)

/-! On the pool these are the methods of the other modules. -/

theorem upsert_pool : pool.upsertPolicyBundleCandidate = ControlPlane.upsertPolicyBundleCandidate :=
  rfl

theorem getPrevious_pool : pool.getPreviousPolicyBundle = ControlPlane.getPreviousPolicyBundle :=
  rfl

theorem activate_pool : pool.activatePolicyBundle = ControlPlane.activatePolicyBundle := rfl

theorem rollback_pool : pool.rollbackPolicyBundle = ControlPlane.rollbackPolicyBundle := rfl

theorem resolve_pool : pool.resolveApproval = ControlPlane.resolveApproval := rfl

theorem appendAuditMeta_pool (decisionId eventType actor : String)
    (payload : List (String × Json.Value)) (eventId : String) (now : Instant) :
    pool.appendAuditMeta decisionId eventType actor payload eventId now
      = ControlPlane.appendAuditMeta decisionId eventType actor payload eventId now false := rfl

theorem consumeAndAudit_pool : pool.consumeAndAudit = ControlPlane.consumeAndAudit := rfl

/-! ## What the next call sees -/

/-- The result of a call, and the rows that the next call sees. -/
def outcome (p : StoreM α) (fails : ℕ → Option PyError) (rows : List Row) :
    Except PyError α × List Row :=
  ((p.run schema fails (.ofRows rows)).1,
    match b with
    | pool => (p.run schema fails (.ofRows rows)).2.committed
    | shared => (p.run schema fails (.ofRows rows)).2.current)

/-- On the shared connection the call leaves nothing pending. -/
def Settles (p : StoreM α) (fails : ℕ → Option PyError) (rows : List Row) : Prop :=
  b = shared → (p.run schema fails (.ofRows rows)).2.current
    = (p.run schema fails (.ofRows rows)).2.committed

theorem outcome_pool (p : StoreM α) (fails : ℕ → Option PyError) (rows : List Row) :
    pool.outcome p fails rows = ControlPlane.outcome p fails rows := rfl

variable {b}

/-- What a call that settles leaves is durable. -/
theorem outcome_of_settles {p : StoreM α} {fails : ℕ → Option PyError} {rows : List Row}
    (h : b.Settles p fails rows) : b.outcome p fails rows = ControlPlane.outcome p fails rows := by
  cases b with
  | pool => rfl
  | shared => exact Prod.ext rfl (h rfl)

/-! ## The two connections -/

section Simulation

variable {fails : ℕ → Option PyError} {rows : List Row} {t : ℕ} {body : StoreM α}

/-- What a session on the shared connection gives and makes durable, a session on the pool does
under some of the same failures, when a body that succeeds leaves nothing pending. -/
theorem run_session (hsettled : ∀ a σ, body.run schema fails ⟨rows, rows, t⟩ = (.ok a, σ) →
      σ.current = σ.committed) :
    ∃ fails' t', (∀ i, fails' i = fails i ∨ fails' i = none) ∧
      (ControlPlane.session body).run schema fails' ⟨rows, rows, t⟩
        = ((body.run schema fails ⟨rows, rows, t⟩).1,
          ⟨(body.run schema fails ⟨rows, rows, t⟩).2.committed,
            (body.run schema fails ⟨rows, rows, t⟩).2.committed, t'⟩) := by
  match hbody : body.run schema fails ⟨rows, rows, t⟩ with
  | (.error e, σ) =>
    obtain ⟨t', hatomic⟩ := Prog.run_atomically_error hbody
    exact ⟨fails, t', fun i => Or.inl rfl, Prog.run_bind_error hatomic⟩
  | (.ok a, ⟨committed, current, n⟩) =>
    obtain rfl : current = committed := hsettled a _ hbody
    -- the statements behind the body do not fail
    let fails' : ℕ → Option PyError := fun i => if i < n then fails i else none
    have hbody' : body.run schema fails' ⟨rows, rows, t⟩ = (.ok a, ⟨current, current, n⟩) := by
      rw [← hbody]
      refine Prog.run_congr body _ (fun i hi => if_pos ?_)
      rw [hbody] at hi
      exact hi
    have hlater : ∀ i, n ≤ i → fails' i = none := fun i hi => if_neg (by omega)
    have hatomic := (Prog.run_atomically_ok hbody').1 (hlater n le_rfl)
    refine ⟨fails', n + 1 + 1, fun i => ?_, ?_⟩
    · by_cases hi : i < n
      · exact Or.inl (if_pos hi)
      · exact Or.inr (if_neg hi)
    · refine (Prog.run_bind_ok hatomic).trans ?_
      have hstep : pythonStep.run schema fails' ⟨current, current, n + 1⟩
          = (.ok (), ⟨current, current, n + 1 + 1⟩) := by
        unfold pythonStep
        rw [Prog.run_bind, Prog.run_call, Stmt.serve]
        dsimp only
        rw [hlater (n + 1) (Nat.le_succ n)]
        rfl
      exact (Prog.run_bind_ok hstep).trans rfl

/-- A session with a commit at its end leaves nothing pending when it succeeds. -/
theorem committing_settled {σ σ' : Session Row} {a : α}
    (h : (shared.committing body).run schema fails σ = (.ok a, σ')) :
    σ'.current = σ'.committed := by
  obtain ⟨a', σ₁, _, h⟩ := Prog.run_bind_eq_ok.mp h
  obtain ⟨_, σ₂, hcommit, h⟩ := Prog.run_bind_eq_ok.mp h
  obtain ⟨reply, σ₃, hserve, hdone⟩ := Prog.run_bind_eq_ok.mp hcommit
  rw [Prog.run_call, Stmt.serve] at hserve
  cases hfail : fails σ₁.time with
  | some e =>
    rw [hfail] at hserve
    cases hserve
  | none =>
    rw [hfail] at hserve
    cases hserve
    cases hdone
    cases h
    rfl

/-- **A call on the shared connection** gives and makes durable what one on the pool does under
some of the same failures. -/
theorem outcome_committing (b : Backend) (body : StoreM α) (fails : ℕ → Option PyError)
    (rows : List Row) : ∃ fails', (∀ i, fails' i = fails i ∨ fails' i = none) ∧
      ControlPlane.outcome (pool.committing body) fails' rows
        = ControlPlane.outcome (b.committing body) fails rows := by
  cases b with
  | pool => exact ⟨fails, fun i => Or.inl rfl, rfl⟩
  | shared =>
    obtain ⟨fails', t', hsub, hrun⟩ := @run_session _ fails rows 0 (shared.committing body)
      (fun a σ h => committing_settled h)
    refine ⟨fails', hsub, ?_⟩
    unfold ControlPlane.outcome
    rw [show (pool.committing body).run schema fails' (.ofRows rows) = _ from hrun]
    rfl

theorem run_fetchAll_cases (fails : ℕ → Option PyError) (σ : Session Row) :
    fetchAll.run schema fails σ = (match fails σ.time with
      | some e => .error e
      | none => .ok σ.current, { σ with time := σ.time + 1 }) := by
  unfold fetchAll
  rw [Prog.run_bind, Prog.run_call, Stmt.serve]
  cases fails σ.time <;> rfl

/-- A call that reads first, in a session of its own. -/
theorem canEnd_reading {f : List Row → StoreM α} (fails : ℕ → Option PyError) (rows : List Row) :
    (ControlPlane.session fetchAll >>= fun rows => pool.committing (f rows)).CanEnd schema rows
      (ControlPlane.outcome (fetchAll >>= fun rows => shared.committing (f rows)) fails rows).1
      (ControlPlane.outcome (fetchAll >>= fun rows => shared.committing (f rows)) fails rows).2 := by
  have hfetch := run_fetchAll_cases fails (.ofRows rows)
  obtain ⟨fails', t', -, hsession⟩ := @run_session _ fails rows 0 fetchAll (fun a σ h => by
    rw [show fetchAll.run schema fails ⟨rows, rows, 0⟩ = _ from hfetch] at h
    rw [← (Prod.mk.inj h).2]
    rfl)
  rw [show fetchAll.run schema fails ⟨rows, rows, 0⟩ = _ from hfetch] at hsession
  unfold ControlPlane.outcome
  cases hfail : fails 0 with
  | some e =>
    have hstart : fails (Session.ofRows rows).time = some e := hfail
    rw [hstart] at hfetch hsession
    rw [Prog.run_bind_error hfetch]
    exact Prog.canEnd_bind_error (Prog.canEnd_of_run hsession)
  | none =>
    have hstart : fails (Session.ofRows rows).time = none := hfail
    rw [hstart] at hfetch hsession
    rw [Prog.run_bind_ok hfetch]
    refine Prog.canEnd_bind (Prog.canEnd_of_run hsession) ?_
    obtain ⟨fails'', t'', -, hrun⟩ := @run_session _ fails rows 1 (shared.committing (f rows))
      (fun a σ h => committing_settled h)
    exact Prog.canEnd_of_run hrun

theorem exists_outcome_of_canEnd {p : StoreM α} {r : Except PyError α} {rows' : List Row}
    (h : p.CanEnd schema rows r rows') :
    ∃ fails', ControlPlane.outcome p fails' rows = (r, rows') := by
  obtain ⟨fails', t', hrun⟩ := h
  refine ⟨fails', ?_⟩
  unfold ControlPlane.outcome
  rw [hrun]

/-- The same of a registration, whose two sessions issue other numbers of statements. -/
theorem outcome_upsert (b : Backend) (new : NewPolicyBundle) (recordId : String) (now : Instant)
    (fails : ℕ → Option PyError) (rows : List Row) : ∃ fails',
      ControlPlane.outcome (ControlPlane.upsertPolicyBundleCandidate new recordId now) fails' rows
        = ControlPlane.outcome (b.upsertPolicyBundleCandidate new recordId now) fails rows := by
  cases b with
  | pool => exact ⟨fails, rfl⟩
  | shared => exact exists_outcome_of_canEnd (canEnd_reading fails rows)

/-- A call that succeeds leaves nothing pending. -/
theorem settles_committing (b : Backend) {a : α}
    (h : (b.outcome (b.committing body) fails rows).1 = .ok a) :
    b.Settles (b.committing body) fails rows := by
  rintro rfl
  exact committing_settled (Prod.ext h rfl)

/-- So does a registration. -/
theorem settles_upsert (b : Backend) {new : NewPolicyBundle} {recordId : String} {now : Instant}
    {r : PolicyBundleRow}
    (h : (b.outcome (b.upsertPolicyBundleCandidate new recordId now) fails rows).1 = .ok r) :
    b.Settles (b.upsertPolicyBundleCandidate new recordId now) fails rows := by
  rintro rfl
  obtain ⟨rows', σ, -, hrun⟩ := Prog.run_bind_eq_ok.mp (Prod.ext h rfl :
    (shared.upsertPolicyBundleCandidate new recordId now).run schema fails (.ofRows rows)
      = (.ok r, ((shared.upsertPolicyBundleCandidate new recordId now).run schema fails
          (.ofRows rows)).2))
  exact committing_settled hrun

end Simulation

end Backend

end ControlPlane

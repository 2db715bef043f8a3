/-
# Rules for the store's programs

What a composed program can issue, read off its parts, and how a program comes by its
success: the rules by which the methods of the store are placed in the interleaved
system.
-/
import ControlPlane.Store.Schema
import ControlPlane.Interleaving

namespace ControlPlane

open Transaction

variable {α β : Type}

/-! ## What the parts issue -/

section Issues

variable {P : Stmt Row → Prop}

theorem issues_done (r : Except PyError α) : (Prog.done r : StoreM α).Issues P := trivial

theorem issues_execute {c : Change Row} (h : P (.change c)) : (execute c).Issues P :=
  Prog.issues_bind (Prog.issues_call h) (fun _ => trivial)

theorem issues_insert {row : Row} (h : P (.insert row)) : (insert row).Issues P :=
  Prog.issues_bind (Prog.issues_call h) (fun _ => trivial)

variable [Prog.Quiet P]

theorem issues_fetchAll : fetchAll.Issues P :=
  Prog.issues_bind (Prog.issues_call Prog.Quiet.select) (fun _ => trivial)

theorem issues_commit : commit.Issues P :=
  Prog.issues_bind (Prog.issues_call Prog.Quiet.commit) (fun _ => trivial)

theorem issues_pythonStep : pythonStep.Issues P :=
  Prog.issues_bind (Prog.issues_call Prog.Quiet.step) (fun _ => trivial)

theorem issues_session {body : StoreM α} (h : body.Issues P) : (session body).Issues P := by
  refine Prog.issues_bind
    (Prog.issues_atomically Prog.Quiet.commit Prog.Quiet.rollback h) (fun a => ?_)
  exact Prog.issues_bind issues_pythonStep (fun _ => trivial)

theorem issues_transaction {body : StoreM α} (h : body.Issues P) :
    (transaction body).Issues P :=
  issues_session (Prog.issues_atomically Prog.Quiet.commit Prog.Quiet.rollback h)

theorem issues_onConnection {conn : Bool} {body : StoreM α} (h : body.Issues P) :
    (onConnection conn body).Issues P := by
  unfold onConnection
  split
  · exact h
  · exact issues_session (Prog.issues_bind h (fun _ => Prog.issues_bind issues_commit
      (fun _ => trivial)))

end Issues

/-! ## How success is earned -/

section Earns

variable {hit : Change Row → Prop} {credit : Credit}

/-- The program can only succeed with a `good` value at a credit that satisfies `C`. -/
def EndsAt (hit : Change Row → Prop) (C : Credit → Prop) (good : α → Prop) (credit : Credit)
    (p : StoreM α) : Prop :=
  p.Ends (Credit.next hit) (fun credit r => ∀ a, r = .ok a → good a → C credit) credit

variable {C : Credit → Prop} {good : α → Prop}

theorem endsAt_ok {a : α} (h : good a → C credit) : EndsAt hit C good credit (pure a) := by
  intro a' ha hgood
  cases ha
  exact h hgood

theorem endsAt_error (e : PyError) :
    EndsAt hit C good credit (Prog.done (.error e) : StoreM α) := fun _ ha _ => nomatch ha

/-- What comes before does not matter when what follows earns its success at every credit. -/
theorem endsAt_bind_of_forall {p : StoreM β} {f : β → StoreM α}
    (h : ∀ b credit, EndsAt hit C good credit (f b)) : EndsAt hit C good credit (p >>= f) := by
  refine Prog.ends_bind ?_
  induction p generalizing credit with
  | done r =>
    cases r with
    | ok b => exact h b credit
    | error e => exact fun _ ha _ => nomatch ha
  | exec s k ih => exact fun r => ih r

theorem endsAt_bind {D : Credit → Prop} {p : StoreM β} {f : β → StoreM α} {B : β → Prop}
    (hp : EndsAt hit D B credit p)
    (h : ∀ b credit, B b → D credit → EndsAt hit C good credit (f b))
    (h' : ∀ b credit, ¬ B b → EndsAt hit C good credit (f b)) :
    EndsAt hit C good credit (p >>= f) := by
  refine Prog.ends_bind (Prog.ends_mono (fun g r hr => ?_) hp)
  cases r with
  | ok b =>
    by_cases hb : B b
    · exact h b g hb (hr b rfl hb)
    · exact h' b g hb
  | error e => exact fun _ ha _ => nomatch ha

/-- An `UPDATE` of the right kind that reports a row has written it. -/
theorem endsAt_execute {c : Change Row} (hc : hit c) :
    EndsAt hit (· ≠ .none) (fun count => count ≠ 0) credit (execute c) := by
  intro r
  cases r with
  | error e => exact fun _ ha _ => nomatch ha
  | ok reply =>
    intro count hcount hne
    cases hcount
    cases credit with
    | none =>
      rw [Credit.next_none_change, if_pos ⟨hc, hne⟩]
      exact fun h => nomatch h
    | written => exact fun h => nomatch h
    | durable => exact fun h => nomatch h

/-- An insertion that succeeds keeps what was written. -/
theorem endsAt_insert {row : Row} (h : credit ≠ .none) :
    EndsAt hit (· ≠ .none) (fun _ => True) credit (insert row) := by
  intro r
  cases r with
  | error e => exact fun _ ha _ => nomatch ha
  | ok reply =>
    intro _ _ _
    cases credit with
    | none => exact absurd rfl h
    | written => exact fun h => nomatch h
    | durable => exact fun h => nomatch h

theorem next_commit (h : credit ≠ .none) (reply : Reply Row) :
    credit.next hit (.commit) (.ok reply : Except PyError _) = .durable := by
  cases credit with
  | none => exact absurd rfl h
  | written => rfl
  | durable => rfl

/-- A commit that succeeds makes what was written durable. -/
theorem endsAt_commit (h : credit ≠ .none) :
    EndsAt hit (· = .durable) (fun _ => True) credit commit := by
  intro r
  cases r with
  | error e => exact fun _ ha _ => nomatch ha
  | ok reply => exact fun _ _ _ => next_commit h reply

/-- What is durable stays so. -/
theorem endsAt_durable (p : StoreM α) : EndsAt hit (· = .durable) good .durable p := by
  induction p with
  | done r => exact fun _ _ _ => rfl
  | exec s k ih => exact fun r => ih r

/-- A session ends with a commit, so that a success written in its body is durable. -/
theorem endsAt_atomically {body : StoreM α} (h : EndsAt hit (· ≠ .none) good credit body) :
    EndsAt hit (· = .durable) good credit (Prog.atomically body) := by
  refine Prog.ends_handle (Prog.ends_bind (Prog.ends_mono (fun g r hr => ?_) h))
  cases r with
  | error e => exact fun _ _ ha _ => nomatch ha
  | ok a =>
    intro reply
    cases reply with
    | error e => exact fun _ _ ha _ => nomatch ha
    | ok reply =>
      intro a' ha hgood
      cases ha
      exact next_commit (hr a rfl hgood) reply

theorem endsAt_session {body : StoreM α} (h : EndsAt hit (· ≠ .none) good credit body) :
    EndsAt hit (· = .durable) good credit (session body) := by
  refine endsAt_bind (B := good) (endsAt_atomically h) (fun a g _ hg => ?_) (fun a g ha => ?_)
  · rw [hg]
    exact endsAt_durable _
  · refine endsAt_bind_of_forall (fun _ g' => endsAt_ok (fun hgood => absurd hgood ha))

theorem EndsAt.mono {D : Credit → Prop} {p : StoreM α} (hCD : ∀ g, C g → D g)
    (h : EndsAt hit C good credit p) : EndsAt hit D good credit p :=
  Prog.ends_mono (fun g _ hr a ha hgood => hCD g (hr a ha hgood)) h

theorem endsAt_transaction {body : StoreM α} (h : EndsAt hit (· ≠ .none) good credit body) :
    EndsAt hit (· = .durable) good credit (transaction body) :=
  endsAt_session ((endsAt_atomically h).mono (fun g hg => by rw [hg]; exact fun h => nomatch h))

end Earns

end ControlPlane

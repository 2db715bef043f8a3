/-
# Transactional programs

A program that talks to a store of rows: it issues statements, gets a reply or an
exception for each, and ends with a result or an exception.  The language is generic
in the rows and the exceptions.

The module has the programs with their combinators, two ways to reason about every
run of a program whatever the store answers (`Issues`, `Ends`), and the serial
semantics, in which one program runs at a time and any statement may be made to fail.
-/
import Mathlib.Data.List.Basic
import Mathlib.Tactic.Common

namespace Transaction

variable {Row ε α β γ : Type}

/-! ## Statements and programs -/

/-- An `UPDATE` or a `DELETE`: the rows it applies to and what becomes of each. -/
structure Change (Row : Type) where
  guard : Row → Bool
  /-- the new row; `none` deletes the row -/
  set : Row → Option Row

/-- A statement.  A `step` is work outside of the store. -/
inductive Stmt (Row : Type) where
  | select
  | change (c : Change Row)
  | insert (row : Row)
  | commit
  | rollback
  | step

/-- The answer to a statement: the rows it read, and the number of rows it changed. -/
structure Reply (Row : Type) where
  rows : List Row := []
  count : ℕ := 0

/-- A program. -/
inductive Prog (Row ε α : Type) where
  | done (result : Except ε α)
  | exec (s : Stmt Row) (k : Except ε (Reply Row) → Prog Row ε α)

namespace Prog

/-- Run a program, then another on its value. -/
def bind : Prog Row ε α → (α → Prog Row ε β) → Prog Row ε β
  | done (.ok a), f => f a
  | done (.error e), _ => done (.error e)
  | exec s k, f => exec s (fun r => (k r).bind f)

/-- Programs run one after the other; an exception ends them. -/
instance : Monad (Prog Row ε) where
  pure a := done (.ok a)
  bind := bind

/-- Run a program, then a handler on its exception. -/
def handle : Prog Row ε α → (ε → Prog Row ε α) → Prog Row ε α
  | done (.ok a), _ => done (.ok a)
  | done (.error e), h => h e
  | exec s k, h => exec s (fun r => (k r).handle h)

/-- Exceptions are raised and caught. -/
instance : MonadExceptOf ε (Prog Row ε) where
  throw e := done (.error e)
  tryCatch := handle

/-- Issue one statement. -/
def call (s : Stmt Row) : Prog Row ε (Reply Row) := exec s done

/-- Commit when the body succeeds, roll back when it or the commit raises. -/
def atomically (body : Prog Row ε α) : Prog Row ε α :=
  handle (do let a ← body; let _ ← call .commit; return a)
    (fun e => exec .rollback (fun _ => done (.error e)))

@[simp] theorem pure_eq (a : α) : (pure a : Prog Row ε α) = done (.ok a) := rfl
@[simp] theorem throw_eq (e : ε) : (throw e : Prog Row ε α) = done (.error e) := rfl
@[simp] theorem bind_ok (a : α) (f : α → Prog Row ε β) : done (.ok a) >>= f = f a := rfl
@[simp] theorem bind_error (e : ε) (f : α → Prog Row ε β) :
    (done (.error e) >>= f) = done (.error e) := rfl
@[simp] theorem bind_exec (s : Stmt Row) (k : Except ε (Reply Row) → Prog Row ε α)
    (f : α → Prog Row ε β) : exec s k >>= f = exec s (fun r => k r >>= f) := rfl

/-- Sequences of programs associate. -/
theorem bind_assoc (p : Prog Row ε α) (f : α → Prog Row ε β) (g : β → Prog Row ε γ) :
    (p >>= f) >>= g = p >>= fun a => f a >>= g := by
  induction p with
  | done r => cases r <;> rfl
  | exec s k ih => exact congrArg (exec s) (funext ih)

@[simp] theorem handle_ok (a : α) (h : ε → Prog Row ε α) :
    handle (done (.ok a)) h = done (.ok a) := rfl
@[simp] theorem handle_error (e : ε) (h : ε → Prog Row ε α) :
    handle (done (.error e)) h = h e := rfl
@[simp] theorem handle_exec (s : Stmt Row) (k : Except ε (Reply Row) → Prog Row ε α)
    (h : ε → Prog Row ε α) : handle (exec s k) h = exec s (fun r => (k r).handle h) := rfl

/-! ## The statements a program can issue -/

/-- Every statement the program can issue, whatever it is answered, has the property. -/
def Issues (P : Stmt Row → Prop) : Prog Row ε α → Prop
  | done _ => True
  | exec s k => P s ∧ ∀ r, (k r).Issues P

/-- A property of statements that those without a write have. -/
class Quiet (P : Stmt Row → Prop) : Prop where
  select : P .select
  commit : P .commit
  rollback : P .rollback
  step : P .step

section Issues

variable {P : Stmt Row → Prop}

/-- A weaker property of the statements. -/
theorem Issues.mono {Q : Stmt Row → Prop} {p : Prog Row ε α} (h : p.Issues P)
    (hPQ : ∀ s, P s → Q s) : p.Issues Q := by
  induction p with
  | done r => trivial
  | exec s k ih => exact ⟨hPQ s h.1, fun r => ih r (h.2 r)⟩

/-- A sequence issues what its parts issue. -/
theorem issues_bind {p : Prog Row ε α} {f : α → Prog Row ε β} (hp : p.Issues P)
    (hf : ∀ a, (f a).Issues P) : (p >>= f).Issues P := by
  induction p with
  | done r =>
    cases r with
    | ok a => exact hf a
    | error e => trivial
  | exec s k ih => exact ⟨hp.1, fun r => ih r (hp.2 r)⟩

/-- A program with a handler issues what the two issue. -/
theorem issues_handle {p : Prog Row ε α} {h : ε → Prog Row ε α} (hp : p.Issues P)
    (hh : ∀ e, (h e).Issues P) : (p.handle h).Issues P := by
  induction p with
  | done r =>
    cases r with
    | ok a => trivial
    | error e => exact hh e
  | exec s k ih => exact ⟨hp.1, fun r => ih r (hp.2 r)⟩

/-- One statement. -/
theorem issues_call {s : Stmt Row} (h : P s) : (call s : Prog Row ε (Reply Row)).Issues P :=
  ⟨h, fun _ => trivial⟩

/-- A transaction issues what its body issues, a commit and a rollback. -/
theorem issues_atomically {body : Prog Row ε α} (hcommit : P .commit) (hrollback : P .rollback)
    (h : body.Issues P) : (atomically body).Issues P := by
  refine issues_handle (issues_bind h (fun a => ?_)) (fun e => ⟨hrollback, fun _ => trivial⟩)
  exact issues_bind (issues_call hcommit) (fun _ => trivial)

end Issues

/-! ## How a program can end -/

/-- A ghost state is updated at every statement and answer; whatever the answers are, the
program ends in a ghost state and with a result that satisfy `Q`. -/
def Ends {G : Type} (next : G → Stmt Row → Except ε (Reply Row) → G)
    (Q : G → Except ε α → Prop) : G → Prog Row ε α → Prop
  | g, done r => Q g r
  | g, exec s k => ∀ r, (k r).Ends next Q (next g s r)

section Ends

variable {G : Type} {next : G → Stmt Row → Except ε (Reply Row) → G}

/-- A weaker end. -/
theorem ends_mono {Q R : G → Except ε α → Prop} (hQR : ∀ g r, Q g r → R g r) {g : G}
    {p : Prog Row ε α} (h : p.Ends next Q g) : p.Ends next R g := by
  induction p generalizing g with
  | done r => exact hQR g r h
  | exec s k ih => exact fun r => ih r (h r)

/-- A sequence ends well when its first part ends where the second one does. -/
theorem ends_bind {Q : G → Except ε β → Prop} {p : Prog Row ε α} {f : α → Prog Row ε β} {g : G}
    (h : p.Ends next (fun g r => match r with
      | .ok a => (f a).Ends next Q g
      | .error e => Q g (.error e)) g) : (p >>= f).Ends next Q g := by
  induction p generalizing g with
  | done r =>
    cases r with
    | ok a => exact h
    | error e => exact h
  | exec s k ih => exact fun r => ih r (h r)

/-- A program with a handler ends well when its exceptions end where the handler does. -/
theorem ends_handle {Q : G → Except ε α → Prop} {p : Prog Row ε α} {f : ε → Prog Row ε α} {g : G}
    (h : p.Ends next (fun g r => match r with
      | .ok a => Q g (.ok a)
      | .error e => (f e).Ends next Q g) g) : (p.handle f).Ends next Q g := by
  induction p generalizing g with
  | done r =>
    cases r with
    | ok a => exact h
    | error e => exact h
  | exec s k ih => exact fun r => ih r (h r)

end Ends

end Prog

/-! ## The serial semantics -/

/-- The integrity constraints of a store: the key of a row, the rows a row needs to find
when it is inserted, and the exception of a violated constraint. -/
structure Schema (Key Row ε : Type) where
  key : Row → Key
  refers : List Row → Row → Bool
  violation : ε

/-- What one program sees: the durable rows, the rows with its own changes, and the number
of statements issued so far. -/
structure Session (Row : Type) where
  committed : List Row
  current : List Row
  time : ℕ := 0

namespace Session

/-- A session without changes of its own. -/
def ofRows (rows : List Row) : Session Row := { committed := rows, current := rows }

end Session

/-- Apply a change to the rows it is meant for. -/
def Change.apply (c : Change Row) (rows : List Row) : List Row :=
  rows.filterMap (fun r => if c.guard r then c.set r else some r)

section Serial

variable {Key : Type} [DecidableEq Key]

/-- A row can be inserted: its key is free and it finds the rows it needs. -/
def Schema.admits (sch : Schema Key Row ε) (rows : List Row) (row : Row) : Bool :=
  (∀ r ∈ rows, sch.key r ≠ sch.key row) && sch.refers rows row

variable (sch : Schema Key Row ε) (fails : ℕ → Option ε)

/-- Serve one statement.  A statement that is made to fail has no effect, except that a
failed rollback loses the changes as well: the connection is dropped. -/
def Stmt.serve (s : Stmt Row) (σ : Session Row) : Except ε (Reply Row) × Session Row :=
  let σ' := { σ with time := σ.time + 1 }
  match fails σ.time with
  | some e =>
    match s with
    | .rollback => (.error e, { σ' with current := σ.committed })
    | _ => (.error e, σ')
  | none =>
    match s with
    | .select => (.ok { rows := σ.current }, σ')
    | .change c =>
      (.ok { count := σ.current.countP c.guard }, { σ' with current := c.apply σ.current })
    | .insert row =>
      if sch.admits σ.current row then
        (.ok { count := 1 }, { σ' with current := σ.current ++ [row] })
      else (.error sch.violation, σ')
    | .commit => (.ok {}, { σ' with committed := σ.current })
    | .rollback => (.ok {}, { σ' with current := σ.committed })
    | .step => (.ok {}, σ')

/-- Run a program in a session. -/
def Prog.run : Prog Row ε α → Session Row → Except ε α × Session Row
  | .done r, σ => (r, σ)
  | .exec s k, σ => (k (s.serve sch fails σ).1).run (s.serve sch fails σ).2

namespace Prog

variable {sch fails}

@[simp] theorem run_done (r : Except ε α) (σ : Session Row) :
    (done r).run sch fails σ = (r, σ) := rfl

/-- One statement is served, and the rest runs on the answer. -/
theorem run_exec (s : Stmt Row) (k : Except ε (Reply Row) → Prog Row ε α) (σ : Session Row) :
    (exec s k).run sch fails σ
      = (k (s.serve sch fails σ).1).run sch fails (s.serve sch fails σ).2 := rfl

/-- A single statement. -/
theorem run_call (s : Stmt Row) (σ : Session Row) :
    (call s).run sch fails σ = s.serve sch fails σ := rfl

/-- A sequence runs its parts in turn, unless the first one raises. -/
theorem run_bind (p : Prog Row ε α) (f : α → Prog Row ε β) (σ : Session Row) :
    (p >>= f).run sch fails σ = match p.run sch fails σ with
      | (.ok a, σ') => (f a).run sch fails σ'
      | (.error e, σ') => (.error e, σ') := by
  induction p generalizing σ with
  | done r => cases r <;> rfl
  | exec s k ih => exact ih _ _

/-- The first part of a sequence returns. -/
theorem run_bind_ok {p : Prog Row ε α} {f : α → Prog Row ε β} {σ σ' : Session Row} {a : α}
    (h : p.run sch fails σ = (.ok a, σ')) :
    (p >>= f).run sch fails σ = (f a).run sch fails σ' := by
  rw [run_bind, h]

/-- The first part of a sequence raises. -/
theorem run_bind_error {p : Prog Row ε α} {f : α → Prog Row ε β} {σ σ' : Session Row} {e : ε}
    (h : p.run sch fails σ = (.error e, σ')) :
    (p >>= f).run sch fails σ = (.error e, σ') := by
  rw [run_bind, h]

/-- A handler runs on what the program has left. -/
theorem run_handle (p : Prog Row ε α) (f : ε → Prog Row ε α) (σ : Session Row) :
    (p.handle f).run sch fails σ = match p.run sch fails σ with
      | (.ok a, σ') => (.ok a, σ')
      | (.error e, σ') => (f e).run sch fails σ' := by
  induction p generalizing σ with
  | done r => cases r <;> rfl
  | exec s k ih => exact ih _ _

end Prog

end Serial

end Transaction

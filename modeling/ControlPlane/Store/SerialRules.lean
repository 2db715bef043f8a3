/-
# Rules for serial runs of the store's programs

The lengths and effects of reading sessions and of transactions, what sessions keep, and
what can be read off a run that has succeeded.
-/
import ControlPlane.Triples
import ControlPlane.Store.Frames

namespace ControlPlane

open Transaction

variable {α β : Type} {rows rows' : List Row} {n m : ℕ} {a : α} {b : β}

/-! ## Programs of fixed length -/

theorem executes_fetchAll : fetchAll.Executes schema rows 1 (fun _ => rows) rows :=
  Prog.executes_map Prog.executes_select Reply.rows

theorem executes_pythonStep : pythonStep.Executes schema rows 1 (fun _ => rows) () :=
  Prog.executes_map Prog.executes_step (fun _ => ())

/-- A session that only reads issues two more statements than its body. -/
theorem executes_session {body : StoreM α} (h : body.Executes schema rows n (fun _ => rows) a) :
    (session body).Executes schema rows (n + 2) (fun _ => rows) a := by
  have hbody : (Prog.atomically body).Executes schema rows (n + 1) (fun _ => rows) a :=
    (Prog.executes_atomically h.commits).congr (fun _ _ => ite_self rows)
  exact Prog.executes_bind_const (n := n + 1) (m := 1) hbody
    (Prog.executes_map executes_pythonStep (fun _ => a)) (fun _ => rfl)

/-- A transaction becomes durable with the statement after its body; two more follow. -/
theorem executes_transaction {body : StoreM α} (h : body.Writes schema rows n rows' a) :
    (transaction body).Executes schema rows (n + 3) (fun i => if i ≤ n then rows else rows') a := by
  have houter : (Prog.atomically (Prog.atomically body)).Executes schema rows (n + 2)
      (fun i => if i ≤ n then rows else rows') a := by
    refine (Prog.executes_atomically (Prog.executes_atomically_writes h).commits).congr
      (fun i hi => ?_)
    simp only [Nat.not_succ_le_self, if_false]
    split_ifs <;> first | rfl | omega
  have hstep : (pythonStep >>= fun _ => pure a : StoreM α).Executes schema
      (if n + 2 ≤ n then rows else rows') 1 (fun _ => rows') a := by
    rw [if_neg (by omega)]
    exact Prog.executes_map executes_pythonStep (fun _ => a)
  refine Prog.Executes.congr (Prog.executes_bind (n := n + 2) (m := 1)
    (f := fun a => pythonStep >>= fun _ => pure a) houter hstep) (fun i hi => ?_)
  split_ifs <;> first | rfl | omega

theorem commit_bind (p : StoreM α) :
    (do commit; p : StoreM α) = Prog.call .commit >>= fun _ => p := by
  show Prog.exec _ _ = Prog.exec _ _
  congr 1
  funext r
  cases r <;> rfl

/-- What follows a session without a commit of its own. -/
theorem executes_session_commits {d : ℕ → List Row} {body : StoreM α}
    (h : body.Commits schema rows rows n d a) :
    (session body).Executes schema rows (n + 2) (fun i => if i ≤ n then d i else d n) a := by
  have hstep : (pythonStep >>= fun _ => pure a : StoreM α).Executes schema
      (if n + 1 ≤ n then d (n + 1) else d n) 1 (fun _ => d n) a := by
    rw [if_neg (by omega)]
    exact Prog.executes_map executes_pythonStep (fun _ => a)
  refine Prog.Executes.congr (Prog.executes_bind (n := n + 1) (m := 1)
    (f := fun a => pythonStep >>= fun _ => pure a) (Prog.executes_atomically h) hstep)
    (fun i hi => ?_)
  split_ifs <;> first | rfl | omega

/-- A session that commits becomes durable with the statement after its body; two more
follow. -/
theorem executes_committing {body : StoreM α} (h : body.Writes schema rows n rows' a) :
    (session (do let a ← body; commit; return a)).Executes schema rows (n + 3)
      (fun i => if i ≤ n then rows else rows') a := by
  have hreturn : (do commit; return a : StoreM α).Commits schema rows rows' 1
      (fun i => if i ≤ 0 then rows else rows') a := by
    rw [commit_bind]
    exact Prog.commits_commit (Prog.executes_done a)
  refine (executes_session_commits (Prog.commits_bind h hreturn)).congr (fun i hi => ?_)
  split_ifs <;> first | rfl | omega

theorem writes_fetchAll : fetchAll.Writes schema rows 1 rows rows :=
  Prog.writes_map Prog.writes_select Reply.rows

theorem writes_execute (c : Change Row) :
    (execute c).Writes schema rows 1 (c.apply rows) (rows.countP c.guard) :=
  Prog.writes_map (Prog.writes_change c) Reply.count

theorem writes_insertRow {row : Row} (h : schema.admits rows row = true) :
    (insert row).Writes schema rows 1 (rows ++ [row]) () :=
  Prog.writes_map (Prog.writes_insert h) (fun _ => ())

/-! ## What sessions keep -/

section Keeps

variable {I : List Row → Prop} {Q : Except PyError α → Prop}

theorem keeps_fetchAll :
    fetchAll.Keeps schema I (fun r => ∀ rows, r = .ok rows → I rows) := by
  refine ⟨fun rows hI => ?_, fun e => ?_⟩
  · intro rows' h
    cases h
    exact hI
  · exact fun _ h => nomatch h

theorem keeps_execute {c : Change Row} (h : ∀ rows, I rows → I (c.apply rows)) :
    (execute c).Keeps schema I (fun _ => True) :=
  ⟨h, fun r => by cases r <;> trivial⟩

theorem keeps_insert {row : Row}
    (h : ∀ rows, I rows → schema.admits rows row = true → I (rows ++ [row])) :
    (insert row).Keeps schema I (fun _ => True) :=
  ⟨h, fun r => by cases r <;> trivial⟩

theorem keeps_commit : commit.Keeps schema I (fun _ => True) :=
  fun r => by cases r <;> trivial

theorem keeps_pythonStep : pythonStep.Keeps schema I (fun _ => True) :=
  fun r => by cases r <;> trivial

theorem keeps_session {body : StoreM α} (h : body.Keeps schema I Q) (herror : ∀ e, Q (.error e)) :
    (session body).Keeps schema I Q :=
  Prog.keeps_bind (Prog.keeps_atomically h herror)
    (fun _ ha => Prog.keeps_bind keeps_pythonStep (fun _ _ => ha) (fun e _ => herror e))
    (fun e _ => herror e)

end Keeps

/-! ## What a success shows -/

section Success

variable {fails : ℕ → Option PyError} {σ σ' : Session Row}

theorem run_insert_ok {row : Row} (h : (insert row).run schema fails σ = (.ok (), σ')) :
    schema.admits σ.current row = true ∧ σ'.committed = σ.committed ∧
      σ'.current = σ.current ++ [row] := by
  obtain ⟨_, σ₁, hcall, hret⟩ := Prog.run_bind_eq_ok.mp h
  cases hret
  exact Prog.run_insert_eq_ok hcall

theorem run_session_ok {body : StoreM α} (h : (session body).run schema fails σ = (.ok a, σ')) :
    ∃ σ₁, body.run schema fails σ = (.ok a, σ₁) ∧ σ'.committed = σ₁.current ∧
      σ'.current = σ₁.current := by
  obtain ⟨a', σ₂, hat, hrest⟩ := Prog.run_bind_eq_ok.mp h
  obtain ⟨_, σ₃, hstep, hret⟩ := Prog.run_bind_eq_ok.mp hrest
  cases hret
  obtain ⟨_, σ₄, hcall, hret'⟩ := Prog.run_bind_eq_ok.mp hstep
  cases hret'
  obtain ⟨hc, hcur⟩ := Prog.run_step_committed fails σ₂ hcall
  obtain ⟨σ₁, hbody, h₁, h₂⟩ := Prog.run_atomically_eq_ok hat
  exact ⟨σ₁, hbody, hc.trans h₁, hcur.trans h₂⟩

/-- A session that reads returns the rows that the connection sees. -/
theorem run_session_fetchAll_ok {rows : List Row}
    (h : (session fetchAll).run schema fails σ = (.ok rows, σ')) :
    rows = σ.current ∧ σ'.current = σ.current := by
  obtain ⟨σ₁, hread, -, hcur⟩ := run_session_ok h
  obtain ⟨r, σ₂, hcall, hret⟩ := Prog.run_bind_eq_ok.mp hread
  cases hret
  obtain ⟨hrows, -, hsame⟩ := Prog.run_select_eq_ok hcall
  exact ⟨hrows, hcur.trans hsame⟩

/-- **A transaction is all or nothing**, whichever of its statements fail. -/
theorem run_transaction_committed {body : StoreM α} (h : body.Issues (fun s => s ≠ .commit))
    (fails : ℕ → Option PyError) (σ : Session Row) :
    ((transaction body).run schema fails σ).2.committed = σ.committed ∨
      ∃ a σ₁, body.run schema fails σ = (.ok a, σ₁) ∧
        ((transaction body).run schema fails σ).2.committed = σ₁.current := by
  obtain ⟨hclean, hinner⟩ := Prog.run_atomically_committed schema h fails σ
  have hstep : ∀ a : α, (pythonStep >>= fun _ => pure a : StoreM α).Issues
      (fun s => s ≠ .commit) :=
    fun a => Prog.issues_bind (Prog.issues_bind (Prog.issues_call (fun h => nomatch h))
      (fun _ => trivial)) (fun _ => trivial)
  have houter : ((transaction body).run schema fails σ).2.committed
      = ((Prog.atomically body).run schema fails σ).2.committed := by
    rw [← Prog.run_atomically_settled fails σ hclean]
    exact Prog.run_bind_committed _ hstep fails σ
  rw [houter]
  exact hinner

end Success

/-! ## Pre- and postconditions -/

section Settles

variable {P : List Row → Prop} {Q : α → List Row → Prop} {E : List Row → Prop}

theorem meets_fetchAll {P E : List Row → List Row → Prop} (herror : ∀ c r, P c r → E c r) :
    fetchAll.Meets schema P (fun rows c r => rows = r ∧ P c r) E := by
  refine Prog.meets_bind (Prog.meets_select herror) (fun reply => ?_)
  refine Prog.meets_done ?_ (fun _ _ _ he => nomatch he)
  intro rows c r hrows h
  cases hrows
  exact h

theorem meets_execute {P E : List Row → List Row → Prop} (c : Change Row)
    (herror : ∀ c r, P c r → E c r) :
    (execute c).Meets schema P
      (fun count c' r' => ∃ r, P c' r ∧ count = r.countP c.guard ∧ r' = c.apply r) E := by
  refine Prog.meets_bind (Prog.meets_change c herror) (fun reply => ?_)
  refine Prog.meets_done ?_ (fun _ _ _ he => nomatch he)
  intro count c' r hcount h
  cases hcount
  exact h

theorem meets_insert {P E : List Row → List Row → Prop} (row : Row)
    (herror : ∀ c r, P c r → E c r) :
    (insert row).Meets schema P
      (fun _ c r' => ∃ r, P c r ∧ schema.admits r row = true ∧ r' = r ++ [row]) E :=
  Prog.meets_bind (Prog.meets_insert row herror)
    (fun _ => Prog.meets_done (fun _ _ _ _ h => h) (fun _ _ _ he => nomatch he))

theorem meets_commit {P E : List Row → List Row → Prop} (herror : ∀ c r, P c r → E c r) :
    commit.Meets schema P (fun _ c' r => c' = r ∧ ∃ c, P c r) E :=
  Prog.meets_bind (Prog.meets_commit herror)
    (fun _ => Prog.meets_done (fun _ _ _ _ h => h) (fun _ _ _ he => nomatch he))

theorem settles_pythonStep (herror : ∀ rows, P rows → E rows) :
    pythonStep.Settles schema P (fun _ => P) E :=
  Prog.settles_bind (Prog.settles_step herror) (fun _ => Prog.settles_ok (fun _ h => h))

/-- A session: its body may commit on the way, and what the body has done by then stays when it
or the end of the session raises. -/
theorem settles_session {body : StoreM α}
    (h : body.Meets schema (Prog.Clean P) (fun a c r => Q a r ∧ E c) (fun c _ => E c))
    (hE : ∀ a rows, Q a rows → E rows) : (session body).Settles schema P Q E := by
  refine Prog.settles_bind (Prog.settles_atomically h) (fun a => ?_)
  exact Prog.settles_bind (settles_pythonStep (hE a)) (fun _ => Prog.settles_ok (fun _ h => h))

/-- A session that keeps a property. -/
theorem settles_session_keeps {I : List Row → Prop} {B : Except PyError α → Prop}
    {body : StoreM α} (h : (session body).Keeps schema I B) :
    (session body).Settles schema I (fun a rows => I rows ∧ B (.ok a)) I := by
  have hclean : (session body).Settles schema (fun _ => True) (fun _ _ => True) (fun _ => True) :=
    settles_session (fun _ _ _ => ⟨fun _ _ => ⟨trivial, trivial⟩, fun _ _ => trivial⟩)
      (fun _ _ _ => trivial)
  intro fails σ hσ
  obtain ⟨hresult, hI, -⟩ := h.run fails hσ.2 (by rw [hσ.1]; exact hσ.2)
  obtain ⟨hok, herror⟩ := hclean fails σ ⟨hσ.1, trivial⟩
  exact ⟨fun a ha => ⟨(hok a ha).1, hI, ha ▸ hresult⟩, fun e he => ⟨(herror e he).1, hI⟩⟩

/-- A session that reads. -/
theorem settles_session_fetchAll :
    (session fetchAll).Settles schema P (fun rows rows' => rows = rows' ∧ P rows') P := by
  refine settles_session ((meets_fetchAll (E := Prog.Clean P) (fun _ _ h => h)).mono
    (fun _ _ h => h) ?_ (fun _ _ h => h.2)) (fun _ _ h => h.2)
  rintro rows c r ⟨rfl, rfl, hP⟩
  exact ⟨⟨rfl, hP⟩, hP⟩

/-- A transaction whose body does not commit is all or nothing; when it raises it may have
happened. -/
theorem settles_transaction {body : StoreM α}
    (h : body.Meets schema (Prog.Clean P) (fun a c r => P c ∧ Q a r) (fun c _ => P c)) :
    (transaction body).Settles schema P Q (fun rows => P rows ∨ ∃ a, Q a rows) := by
  have hinner : (Prog.atomically body).Settles schema P Q P :=
    Prog.settles_atomically (h.mono (fun _ _ h => h) (fun _ _ _ h => ⟨h.2, h.1⟩) (fun _ _ h => h))
  refine settles_session (Prog.Meets.mono hinner (fun _ _ h => h) ?_ ?_) (fun a _ h => Or.inr ⟨a, h⟩)
  · rintro a c r ⟨rfl, hQ⟩
    exact ⟨hQ, Or.inr ⟨a, hQ⟩⟩
  · exact fun c _ h => Or.inl h.2

/-- A body in a session of its own, with its commit, is all or nothing; when it raises it may
have happened. -/
theorem settles_onConnection {body : StoreM α}
    (h : body.Meets schema (Prog.Clean P) (fun a c r => P c ∧ Q a r) (fun c _ => P c)) :
    (onConnection false body).Settles schema P Q (fun rows => P rows ∨ ∃ a, Q a rows) := by
  refine settles_session (Prog.meets_bind (h.mono (fun _ _ h => h) (fun _ _ _ h => h)
    (fun _ _ h => Or.inl h)) (fun a => ?_)) (fun a _ h => Or.inr ⟨a, h⟩)
  refine Prog.meets_bind (meets_commit (fun _ _ h => Or.inl h.1)) (fun _ => ?_)
  refine Prog.meets_done ?_ (fun _ _ _ he => nomatch he)
  rintro b c r hb ⟨rfl, c', hP, hQ⟩
  cases hb
  exact ⟨hQ, Or.inr ⟨_, hQ⟩⟩

/-- What a program leaves durable when it runs alone. -/
theorem outcome_of_settles {p : StoreM α} (h : p.Settles schema P Q E)
    (fails : ℕ → Option PyError) {rows : List Row} (hrows : P rows) :
    (∀ a, (outcome p fails rows).1 = .ok a → Q a (outcome p fails rows).2) ∧
      ∀ e, (outcome p fails rows).1 = .error e → E (outcome p fails rows).2 := by
  obtain ⟨hok, herror⟩ := h fails (.ofRows rows) ⟨rfl, hrows⟩
  exact ⟨fun a ha => (hok a ha).2, fun e he => (herror e he).2⟩

/-- What holds in any case holds afterwards. -/
theorem settled_outcome {p : StoreM α} (h : p.Settles schema P (fun _ => E) E)
    (fails : ℕ → Option PyError) {rows : List Row} (hrows : P rows) :
    E (outcome p fails rows).2 := by
  obtain ⟨hok, herror⟩ := outcome_of_settles h fails hrows
  cases hres : (outcome p fails rows).1 with
  | ok a => exact hok a hres
  | error e => exact herror e hres

end Settles

/-! ## Runs in which nothing fails -/

section Calm

/-- What a call that runs alone returns when nothing fails. -/
def answer (p : StoreM α) (rows : List Row) : Except PyError α :=
  (outcome p (fun _ => none) rows).1

variable {σ : Session Row}

theorem run_fetchAll : fetchAll.run schema (fun _ => none) σ
    = (.ok σ.current, { σ with time := σ.time + 1 }) := rfl

theorem run_execute (c : Change Row) : (execute c).run schema (fun _ => none) σ
    = (.ok (σ.current.countP c.guard),
      { σ with current := c.apply σ.current, time := σ.time + 1 }) := rfl

theorem run_commit : commit.run schema (fun _ => none) σ
    = (.ok (), { σ with committed := σ.current, time := σ.time + 1 }) := rfl

/-- A session returns what its body returns. -/
theorem run_session (body : StoreM α) (σ : Session Row) :
    ((session body).run schema (fun _ => none) σ).1 = (body.run schema (fun _ => none) σ).1 := by
  match hbody : body.run schema (fun _ => none) σ with
  | (.error e, σ₁) =>
    obtain ⟨t', hrun⟩ := Prog.run_atomically_error hbody
    unfold session
    rw [Prog.run_bind_error hrun]
  | (.ok a, ⟨committed, current, t⟩) =>
    obtain ⟨hok, -⟩ := Prog.run_atomically_ok hbody
    unfold session
    rw [Prog.run_bind_ok (hok rfl)]
    rfl

theorem answer_session (body : StoreM α) (rows : List Row) :
    answer (session body) rows = (body.run schema (fun _ => none) (.ofRows rows)).1 :=
  run_session body _

/-- What follows without a statement is applied to the value. -/
theorem answer_bind_done {p : StoreM α} (f : α → Except PyError β) (rows : List Row) :
    answer (p >>= fun a => .done (f a)) rows = (answer p rows).bind f := by
  unfold answer outcome
  dsimp only
  rw [Prog.run_bind]
  match p.run schema (fun _ => none) (.ofRows rows) with
  | (.ok a, σ) => rfl
  | (.error e, σ) => rfl

end Calm

end ControlPlane

/-
# Pre- and postconditions of serial runs

What a program makes of the durable rows and of the rows that it sees itself, whichever of its
statements fail: a condition for the rows that it starts from, one for the rows and the value
when it returns, and one for the rows when it raises (`Meets`).  A program that starts and ends
without changes of its own is described by the durable rows alone (`Settles`).
-/
import ControlPlane.SerialRuns

namespace Transaction

variable {Row ε α β Key : Type} [DecidableEq Key]

/-- The statement writes nothing. -/
def Stmt.Reading : Stmt Row → Prop
  | .change _ => False
  | .insert _ => False
  | _ => True

instance : Prog.Quiet (@Stmt.Reading Row) := ⟨trivial, trivial, trivial, trivial⟩

/-- A deletion leaves some of the rows. -/
theorem Change.apply_sublist {c : Change Row} (hdelete : ∀ r, c.set r = none) (rows : List Row) :
    (c.apply rows).Sublist rows := by
  have hfilter : c.apply rows = rows.filter (fun r => ! c.guard r) := by
    unfold Change.apply
    rw [← List.filterMap_eq_filter]
    congr 1
    funext r
    rw [hdelete]
    cases hr : c.guard r <;> simp [Option.guard, hr]
  rw [hfilter]
  exact List.filter_sublist

namespace Prog

/-- Started on durable rows `c` and rows of its own `r` with `P c r`, the program ends with some
that satisfy `Q a` when it returns `a`, and with some that satisfy `E` when it raises. -/
def Meets (sch : Schema Key Row ε) (P : List Row → List Row → Prop)
    (Q : α → List Row → List Row → Prop) (E : List Row → List Row → Prop) (p : Prog Row ε α) :
    Prop :=
  ∀ (fails : ℕ → Option ε) (σ : Session Row), P σ.committed σ.current →
    (∀ a, (p.run sch fails σ).1 = .ok a →
      Q a (p.run sch fails σ).2.committed (p.run sch fails σ).2.current) ∧
    ∀ e, (p.run sch fails σ).1 = .error e →
      E (p.run sch fails σ).2.committed (p.run sch fails σ).2.current

/-- There are no changes that are not durable. -/
def Clean (P : List Row → Prop) (c r : List Row) : Prop := r = c ∧ P c

/-- Started on durable rows with the property `P` and without changes of its own, the program
ends without changes of its own; the rows satisfy `Q a` when it returns `a`, and `E` when it
raises. -/
def Settles (sch : Schema Key Row ε) (P : List Row → Prop) (Q : α → List Row → Prop)
    (E : List Row → Prop) (p : Prog Row ε α) : Prop :=
  p.Meets sch (Clean P) (fun a => Clean (Q a)) (Clean E)

/-! ## Inside of a transaction -/

section Meets

variable {sch : Schema Key Row ε} {P P' : List Row → List Row → Prop}
  {Q Q' : α → List Row → List Row → Prop} {R : β → List Row → List Row → Prop}
  {E E' : List Row → List Row → Prop}

theorem Meets.mono {p : Prog Row ε α} (h : p.Meets sch P Q E) (hP : ∀ c r, P' c r → P c r)
    (hQ : ∀ a c r, Q a c r → Q' a c r) (hE : ∀ c r, E c r → E' c r) : p.Meets sch P' Q' E' := by
  intro fails σ hσ
  obtain ⟨hok, herror⟩ := h fails σ (hP _ _ hσ)
  exact ⟨fun a ha => hQ a _ _ (hok a ha), fun e he => hE _ _ (herror e he)⟩

/-- What holds before whatever the rows are is a hypothesis. -/
theorem meets_of_fact {fact : Prop} {p : Prog Row ε α} (h : fact → p.Meets sch P Q E) :
    p.Meets sch (fun c r => fact ∧ P c r) Q E :=
  fun fails σ hσ => h hσ.1 fails σ hσ.2

/-- A computation outside of the store. -/
theorem meets_done {x : Except ε α} (hok : ∀ a c r, x = .ok a → P c r → Q a c r)
    (herror : ∀ e c r, x = .error e → P c r → E c r) : (done x : Prog Row ε α).Meets sch P Q E :=
  fun _ _ hσ => ⟨fun a ha => hok a _ _ ha hσ, fun e he => herror e _ _ he hσ⟩

theorem meets_bind {p : Prog Row ε β} {f : β → Prog Row ε α} (hp : p.Meets sch P R E)
    (hf : ∀ b, (f b).Meets sch (R b) Q E) : (p >>= f).Meets sch P Q E := by
  intro fails σ hσ
  obtain ⟨hok, herror⟩ := hp fails σ hσ
  match hrun : p.run sch fails σ with
  | (.ok b, σ') =>
    rw [hrun] at hok
    rw [run_bind_ok hrun]
    exact hf b fails σ' (hok b rfl)
  | (.error e, σ') =>
    rw [hrun] at herror
    rw [run_bind_error hrun]
    refine ⟨fun a ha => (nomatch ha), ?_⟩
    intro e' he
    cases he
    exact herror e rfl

theorem meets_handle {p : Prog Row ε α} {f : ε → Prog Row ε α} (hp : p.Meets sch P Q E')
    (hf : ∀ e, (f e).Meets sch E' Q E) : (p.handle f).Meets sch P Q E := by
  intro fails σ hσ
  obtain ⟨hok, herror⟩ := hp fails σ hσ
  rw [run_handle]
  match hrun : p.run sch fails σ with
  | (.ok b, σ') =>
    rw [hrun] at hok
    refine ⟨?_, fun e he => nomatch he⟩
    intro a ha
    cases ha
    exact hok b rfl
  | (.error e, σ') =>
    rw [hrun] at herror
    exact hf e fails σ' (herror e rfl)

theorem meets_select (herror : ∀ c r, P c r → E c r) :
    (call .select : Prog Row ε (Reply Row)).Meets sch P
      (fun reply c r => reply.rows = r ∧ P c r) E := by
  intro fails σ hσ
  rw [run_call]
  unfold Stmt.serve
  cases fails σ.time with
  | none =>
    refine ⟨fun a ha => ?_, fun e he => nomatch he⟩
    cases ha
    exact ⟨rfl, hσ⟩
  | some e => exact ⟨fun a ha => (nomatch ha), fun _ _ => herror _ _ hσ⟩

theorem meets_change (c : Change Row) (herror : ∀ c r, P c r → E c r) :
    (call (.change c) : Prog Row ε (Reply Row)).Meets sch P
      (fun reply c' r' => ∃ r, P c' r ∧ reply.count = r.countP c.guard ∧ r' = c.apply r) E := by
  intro fails σ hσ
  rw [run_call]
  unfold Stmt.serve
  cases fails σ.time with
  | none =>
    refine ⟨fun a ha => ?_, fun e he => nomatch he⟩
    cases ha
    exact ⟨σ.current, hσ, rfl, rfl⟩
  | some e => exact ⟨fun a ha => (nomatch ha), fun _ _ => herror _ _ hσ⟩

theorem meets_insert (row : Row) (herror : ∀ c r, P c r → E c r) :
    (call (.insert row) : Prog Row ε (Reply Row)).Meets sch P
      (fun _ c r' => ∃ r, P c r ∧ sch.admits r row = true ∧ r' = r ++ [row]) E := by
  intro fails σ hσ
  rw [run_call]
  unfold Stmt.serve
  cases fails σ.time with
  | none =>
    by_cases hadmits : sch.admits σ.current row = true
    · simp only [hadmits, if_true]
      exact ⟨fun _ _ => ⟨σ.current, hσ, hadmits, rfl⟩, fun e he => by cases he⟩
    · simp only [hadmits]
      exact ⟨fun a ha => (by cases ha), fun _ _ => herror _ _ hσ⟩
  | some e => exact ⟨fun a ha => (by cases ha), fun _ _ => herror _ _ hσ⟩

theorem meets_commit (herror : ∀ c r, P c r → E c r) :
    (call .commit : Prog Row ε (Reply Row)).Meets sch P
      (fun _ c' r => c' = r ∧ ∃ c, P c r) E := by
  intro fails σ hσ
  rw [run_call]
  unfold Stmt.serve
  cases fails σ.time with
  | none =>
    refine ⟨fun a ha => ?_, fun e he => nomatch he⟩
    cases ha
    exact ⟨rfl, σ.committed, hσ⟩
  | some e => exact ⟨fun a ha => (nomatch ha), fun _ _ => herror _ _ hσ⟩

/-- Work outside of the store that may raise. -/
theorem meets_step (herror : ∀ c r, P c r → E c r) :
    (call .step : Prog Row ε (Reply Row)).Meets sch P (fun _ => P) E := by
  intro fails σ hσ
  rw [run_call]
  unfold Stmt.serve
  cases fails σ.time with
  | none => exact ⟨fun _ _ => hσ, fun e he => nomatch he⟩
  | some e => exact ⟨fun a ha => (nomatch ha), fun _ _ => herror _ _ hσ⟩

/-- A program that does not commit for itself leaves the durable rows alone. -/
theorem meets_of_issues {P : List Row → Prop} {Q : α → List Row → Prop} {p : Prog Row ε α}
    (hp : p.Issues (fun s => s ≠ .commit))
    (h : ∀ fails σ a σ', P σ.current → p.run sch fails σ = (.ok a, σ') → Q a σ'.current) :
    p.Meets sch (Clean P) (fun a c r => P c ∧ Q a r) (fun c _ => P c) := by
  intro fails σ hσ
  have hcommitted : (p.run sch fails σ).2.committed = σ.committed := hp.run_committed fails σ
  have hP : P (p.run sch fails σ).2.committed := hcommitted ▸ hσ.2
  have hcurrent : P σ.current := by
    rw [hσ.1]
    exact hσ.2
  exact ⟨fun a ha => ⟨hP, h fails σ a _ hcurrent (Prod.ext ha rfl)⟩, fun _ _ => hP⟩

/-- A program that keeps a property. -/
theorem Keeps.meets {I : List Row → Prop} {B : Except ε α → Prop} {p : Prog Row ε α}
    (h : p.Keeps sch I B) :
    p.Meets sch (fun c r => I c ∧ I r) (fun a c r => B (.ok a) ∧ I c ∧ I r)
      (fun c r => I c ∧ I r) := by
  intro fails σ hσ
  obtain ⟨hresult, hrows⟩ := h.run fails hσ.1 hσ.2
  exact ⟨fun a ha => ⟨ha ▸ hresult, hrows⟩, fun _ _ => hrows⟩

end Meets

/-! ## Between transactions -/

section Settles

variable {sch : Schema Key Row ε} {P P' : List Row → Prop} {Q Q' : α → List Row → Prop}
  {R : β → List Row → Prop} {E E' : List Row → Prop}

theorem Settles.mono {p : Prog Row ε α} (h : p.Settles sch P Q E) (hP : ∀ rows, P' rows → P rows)
    (hQ : ∀ a rows, Q a rows → Q' a rows) (hE : ∀ rows, E rows → E' rows) :
    p.Settles sch P' Q' E' :=
  Meets.mono h (fun c _ h => ⟨h.1, hP c h.2⟩) (fun a c _ h => ⟨h.1, hQ a c h.2⟩)
    (fun c _ h => ⟨h.1, hE c h.2⟩)

/-- What holds for each list of rows may refer to it. -/
theorem settles_of_rows {p : Prog Row ε α}
    (h : ∀ rows, P rows → p.Settles sch (fun rows' => rows' = rows) Q E) : p.Settles sch P Q E :=
  fun fails σ hσ => h σ.committed hσ.2 fails σ ⟨hσ.1, rfl⟩

/-- What holds before whatever the rows are is a hypothesis. -/
theorem settles_of_fact {fact : Prop} {p : Prog Row ε α} (h : fact → p.Settles sch P Q E) :
    p.Settles sch (fun rows => fact ∧ P rows) Q E :=
  fun fails σ hσ => h hσ.2.1 fails σ ⟨hσ.1, hσ.2.2⟩

/-- A computation outside of the store. -/
theorem settles_done {x : Except ε α} (hok : ∀ a rows, x = .ok a → P rows → Q a rows)
    (herror : ∀ e rows, x = .error e → P rows → E rows) :
    (done x : Prog Row ε α).Settles sch P Q E :=
  meets_done (fun a c _ hx h => ⟨h.1, hok a c hx h.2⟩) (fun e c _ hx h => ⟨h.1, herror e c hx h.2⟩)

theorem settles_ok {a : α} (h : ∀ rows, P rows → Q a rows) :
    (done (.ok a) : Prog Row ε α).Settles sch P Q E := by
  refine settles_done ?_ (fun e rows he => nomatch he)
  intro a' rows ha
  cases ha
  exact h rows

theorem settles_error {e : ε} (h : ∀ rows, P rows → E rows) :
    (done (.error e) : Prog Row ε α).Settles sch P Q E :=
  settles_done (fun _ _ ha => nomatch ha) (fun _ rows _ => h rows)

theorem settles_bind {p : Prog Row ε β} {f : β → Prog Row ε α} (hp : p.Settles sch P R E)
    (hf : ∀ b, (f b).Settles sch (R b) Q E) : (p >>= f).Settles sch P Q E :=
  meets_bind hp hf

theorem settles_handle {p : Prog Row ε α} {f : ε → Prog Row ε α} (hp : p.Settles sch P Q E')
    (hf : ∀ e, (f e).Settles sch E' Q E) : (p.handle f).Settles sch P Q E :=
  meets_handle hp hf

theorem settles_step (herror : ∀ rows, P rows → E rows) :
    (call .step : Prog Row ε (Reply Row)).Settles sch P (fun _ => P) E :=
  meets_step (fun c _ h => ⟨h.1, herror c h.2⟩)

/-- A program that writes nothing. -/
theorem settles_of_reading {p : Prog Row ε α} (h : p.Issues Stmt.Reading) :
    p.Settles sch P (fun _ => P) P := by
  intro fails σ hσ
  induction p generalizing σ with
  | done x => exact ⟨fun _ _ => hσ, fun _ _ => hσ⟩
  | exec s k ih =>
    rw [run_exec]
    refine ih _ (h.2 _) _ ?_
    unfold Stmt.serve
    cases fails σ.time with
    | none =>
      cases s with
      | select => exact hσ
      | change c => exact absurd h.1 id
      | insert row => exact absurd h.1 id
      | commit => exact ⟨rfl, by rw [hσ.1]; exact hσ.2⟩
      | rollback => exact ⟨rfl, hσ.2⟩
      | step => exact hσ
    | some e =>
      cases s with
      | rollback => exact ⟨rfl, hσ.2⟩
      | _ => exact hσ

/-- A program that keeps a property besides. -/
theorem Settles.and_keeps {I : List Row → Prop} {B : Except ε α → Prop} {p : Prog Row ε α}
    (h : p.Settles sch P Q E) (hI : p.Keeps sch I B) :
    p.Settles sch (fun rows => P rows ∧ I rows) (fun a rows => Q a rows ∧ I rows)
      (fun rows => E rows ∧ I rows) := by
  intro fails σ hσ
  have hcurrent : I σ.current := by
    rw [hσ.1]
    exact hσ.2.2
  obtain ⟨hok, herror⟩ := h fails σ ⟨hσ.1, hσ.2.1⟩
  obtain ⟨-, hkept, -⟩ := hI.run fails hσ.2.2 hcurrent
  exact ⟨fun a ha => ⟨(hok a ha).1, (hok a ha).2, hkept⟩,
    fun e he => ⟨(herror e he).1, (herror e he).2, hkept⟩⟩

/-- A transaction ends without changes of its own.  When it raises, its body has raised, or its
commit after the body. -/
theorem settles_atomically {p : Prog Row ε α}
    (h : p.Meets sch (Clean P) (fun a c r => Q a r ∧ E c) (fun c _ => E c)) :
    (atomically p).Settles sch P Q E := by
  intro fails σ hσ
  obtain ⟨hok', herror'⟩ := h fails σ hσ
  match hbody : p.run sch fails σ with
  | (.error e, σ₁) =>
    rw [hbody] at herror'
    obtain ⟨t', hrun⟩ := run_atomically_error hbody
    rw [hrun]
    exact ⟨fun a ha => (nomatch ha), fun _ _ => ⟨rfl, herror' e rfl⟩⟩
  | (.ok b, ⟨committed, current, t⟩) =>
    rw [hbody] at hok'
    obtain ⟨hQ, hE⟩ := hok' b rfl
    obtain ⟨hok, hfail⟩ := run_atomically_ok hbody
    cases hf : fails t with
    | none =>
      rw [hok hf]
      refine ⟨fun a ha => ?_, fun e he => nomatch he⟩
      cases ha
      exact ⟨rfl, hQ⟩
    | some e =>
      obtain ⟨e', t', hrun⟩ := hfail (by rw [hf]; exact fun h => nomatch h)
      rw [hrun]
      exact ⟨fun a ha => (nomatch ha), fun _ _ => ⟨rfl, hE⟩⟩

/-- What a program of fixed length leaves durable, read off the first failure. -/
theorem Executes.committed {I : List Row → Prop} {p : Prog Row ε α} {rows : List Row} {n : ℕ}
    {d : ℕ → List Row} {a : α} (h : p.Executes sch rows n d a) (fails : ℕ → Option ε)
    (hfirst : ∀ i < n, fails i ≠ none → (∀ j < i, fails j = none) → I (d i))
    (hall : Succeeds fails n → I (d n)) : I (p.run sch fails (.ofRows rows)).2.committed := by
  rcases h.run_committed fails with ⟨hok, -, hrows⟩ | ⟨i, hi, hfail, hbefore, -, hrows⟩
  · rw [hrows]
    exact hall hok
  · rw [hrows]
    exact hfirst i hi hfail hbefore

/-- What a program of fixed length returns and leaves. -/
theorem Executes.settles {p : Prog Row ε α} {rows : List Row} {n : ℕ} {d : ℕ → List Row} {a : α}
    (h : p.Executes sch rows n d a) :
    p.Settles sch (fun rows' => rows' = rows) (fun x rows' => x = a ∧ rows' = d n)
      (fun rows' => ∃ i < n, rows' = d i) := by
  classical
  rintro fails ⟨committed, current, t⟩ ⟨hclean, hrows⟩
  dsimp only at hclean hrows
  obtain rfl := hclean
  obtain rfl := hrows
  by_cases hall : ∀ i < n, fails (t + i) = none
  · rw [(h fails t).1 hall]
    refine ⟨fun x hx => ?_, fun e he => by cases he⟩
    cases hx
    exact ⟨rfl, rfl, rfl⟩
  · have hex : ∃ i, i < n ∧ fails (t + i) ≠ none := by
      push Not at hall
      exact hall
    obtain ⟨hi, hfail⟩ := Nat.find_spec hex
    have hfirst : ∀ j < Nat.find hex, fails (t + j) = none := by
      intro j hj
      by_contra hne
      exact Nat.find_min hex hj ⟨Nat.lt_trans hj hi, hne⟩
    obtain ⟨e, t', hrun⟩ := (h fails t).2 _ hi hfail hfirst
    rw [hrun]
    exact ⟨fun x hx => (by cases hx), fun _ _ => ⟨rfl, _, hi, rfl⟩⟩

/-- A program of fixed length, and one that settles. -/
theorem Executes.committed_bind {I : List Row → Prop} {p : Prog Row ε β} {f : β → Prog Row ε α}
    {rows : List Row} {n : ℕ} {d : ℕ → List Row} {b : β} (h : p.Executes sch rows n d b)
    (hf : (f b).Settles sch I (fun _ => I) I) (fails : ℕ → Option ε)
    (hfirst : ∀ i < n, fails i ≠ none → (∀ j < i, fails j = none) → I (d i))
    (hall : Succeeds fails n → I (d n)) :
    I ((p >>= f).run sch fails (.ofRows rows)).2.committed := by
  have hI := h.committed fails hfirst hall
  have hshift : ∀ i, 0 + i = i := Nat.zero_add
  match hrun : p.run sch fails (.ofRows rows) with
  | (.error e, σ) =>
    rw [hrun] at hI
    rw [run_bind_error hrun]
    exact hI
  | (.ok b', σ) =>
    rw [run_bind_ok hrun]
    rcases h.run_committed fails with ⟨hok, hb, -⟩ | ⟨i, hi, hfail, hbefore, ⟨e, he⟩, -⟩
    · have hclean := (h fails 0).1 (fun i hi => by rw [hshift]; exact hok i hi)
      have hsame : (Except.ok b', σ)
          = ((Except.ok b, ⟨d n, d n, 0 + n⟩) : Except ε β × Session Row) :=
        hrun.symm.trans hclean
      cases hsame
      obtain ⟨hok', herror'⟩ := hf fails ⟨d n, d n, 0 + n⟩ ⟨rfl, hall hok⟩
      cases hres : ((f b).run sch fails ⟨d n, d n, 0 + n⟩).1 with
      | ok a => exact (hok' a hres).2
      | error e => exact (herror' e hres).2
    · rw [hrun] at he
      cases he

end Settles

/-! ## Without failures -/

section Returns

variable {sch : Schema Key Row ε} {rows rows' rows'' : List Row} {a : α} {b : β}

/-- When nothing fails the program returns, and leaves these rows durable. -/
def Returns (sch : Schema Key Row ε) (p : Prog Row ε α) (rows : List Row) (a : α)
    (rows' : List Row) : Prop :=
  ∀ t, ∃ t', p.run sch (fun _ => none) ⟨rows, rows, t⟩ = (.ok a, ⟨rows', rows', t'⟩)

theorem Executes.returns {p : Prog Row ε α} {n : ℕ} {d : ℕ → List Row}
    (h : p.Executes sch rows n d a) : p.Returns sch rows a (d n) :=
  fun t => ⟨t + n, (h (fun _ => none) t).1 (fun _ _ => rfl)⟩

theorem returns_done : (done (.ok a) : Prog Row ε α).Returns sch rows a rows :=
  fun t => ⟨t, rfl⟩

theorem returns_bind {p : Prog Row ε β} {f : β → Prog Row ε α} (hp : p.Returns sch rows b rows')
    (hf : (f b).Returns sch rows' a rows'') : (p >>= f).Returns sch rows a rows'' := by
  intro t
  obtain ⟨t', hrun⟩ := hp t
  obtain ⟨t'', hrun'⟩ := hf t'
  exact ⟨t'', by rw [run_bind_ok hrun, hrun']⟩

end Returns

end Prog

/-! ## Sequences of calls -/

section Calls

variable {Call : Type} (after : Call → (ℕ → Option ε) → List Row → List Row)

/-- The rows after a sequence of calls, each with its own failures. -/
def runCalls (calls : List (Call × (ℕ → Option ε))) (rows : List Row) : List Row :=
  calls.foldl (fun rows call => after call.1 call.2 rows) rows

/-- A property of every step of a run: of the call, its failures and the rows it starts from. -/
def EveryStep (P : Call → (ℕ → Option ε) → List Row → Prop) :
    List (Call × (ℕ → Option ε)) → List Row → Prop
  | [], _ => True
  | call :: calls, rows =>
    P call.1 call.2 rows ∧ EveryStep P calls (after call.1 call.2 rows)

/-- Some step of a run has the property. -/
def SomeStep (P : Call → (ℕ → Option ε) → List Row → Prop) :
    List (Call × (ℕ → Option ε)) → List Row → Prop
  | [], _ => False
  | call :: calls, rows =>
    P call.1 call.2 rows ∨ SomeStep P calls (after call.1 call.2 rows)

/-- A property of the calls themselves. -/
theorem everyStep_of_mem {P : Call → Prop} {calls : List (Call × (ℕ → Option ε))}
    (h : ∀ call ∈ calls, P call.1) (rows : List Row) :
    EveryStep after (fun call _ _ => P call) calls rows := by
  induction calls generalizing rows with
  | nil => trivial
  | cons call calls ih =>
    exact ⟨h call List.mem_cons_self, ih (fun c hc => h c (List.mem_cons_of_mem _ hc)) _⟩

/-- **Invariant rule of a sequence of calls.** -/
theorem runCalls_invariant {I : List Row → Prop}
    {P : Call → (ℕ → Option ε) → List Row → Prop}
    (hstep : ∀ call fails rows, P call fails rows → I rows → I (after call fails rows))
    {calls : List (Call × (ℕ → Option ε))} {rows : List Row} (h : EveryStep after P calls rows)
    (hI : I rows) : I (runCalls after calls rows) := by
  induction calls generalizing rows with
  | nil => exact hI
  | cons call calls ih => exact ih h.2 (hstep call.1 call.2 rows h.1 hI)

/-- **Invariant rule with a history.**  The invariant speaks of what has happened so far, and
each step adds what it does. -/
theorem runCalls_history {α : Type} {I : (α → Prop) → List Row → Prop}
    {P : Call → (ℕ → Option ε) → List Row → Prop}
    {does : Call → (ℕ → Option ε) → List Row → α → Prop}
    (hmono : ∀ {past past' : α → Prop} {rows : List Row}, (∀ x, past x → past' x) →
      I past rows → I past' rows)
    (hstep : ∀ call fails rows past, P call fails rows → I past rows →
      I (fun x => past x ∨ does call fails rows x) (after call fails rows))
    {calls : List (Call × (ℕ → Option ε))} {rows : List Row} {past : α → Prop}
    (h : EveryStep after P calls rows) (hI : I past rows) :
    I (fun x => past x ∨ SomeStep after (fun call fails rows => does call fails rows x) calls rows)
      (runCalls after calls rows) := by
  induction calls generalizing rows past with
  | nil => exact hmono (fun _ => Or.inl) hI
  | cons call calls ih =>
    have hlater := ih h.2 (hstep call.1 call.2 rows past h.1 hI)
    refine hmono ?_ hlater
    rintro x ((hpast | hnow) | hlater)
    · exact Or.inl hpast
    · exact Or.inr (Or.inl hnow)
    · exact Or.inr (Or.inr hlater)

end Calls

end Transaction

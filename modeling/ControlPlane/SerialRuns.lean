/-
# Serial runs

Two ways to know what a serial run leaves behind, whichever statements fail.  A program
without branches issues a fixed number of statements, and the first one that fails decides
(`Executes`).  A program with branches keeps what each of its statements keeps (`Keeps`).
-/
import ControlPlane.Transaction
import Mathlib.Data.Nat.Find
import Mathlib.Tactic.SplitIfs

namespace Transaction

variable {Row ε α β Key : Type} [DecidableEq Key]

/-! ## Failure points -/

namespace Prog

section Executes

variable (sch : Schema Key Row ε)

/-- Started without changes of its own, the program issues `n` statements and returns `a`.
If the first statement to fail is the one number `i`, it raises and leaves `durable i`; if
none fails it leaves `durable n`. -/
def Executes (p : Prog Row ε α) (rows : List Row) (n : ℕ) (durable : ℕ → List Row) (a : α) :
    Prop :=
  ∀ (fails : ℕ → Option ε) (t : ℕ),
    ((∀ i < n, fails (t + i) = none) →
      p.run sch fails ⟨rows, rows, t⟩ = (.ok a, ⟨durable n, durable n, t + n⟩)) ∧
    ∀ i < n, fails (t + i) ≠ none → (∀ j < i, fails (t + j) = none) →
      ∃ e t', p.run sch fails ⟨rows, rows, t⟩ = (.error e, ⟨durable i, durable i, t'⟩)

/-- Inside of a transaction the program issues `n` statements, turns `rows` into `rows'` and
returns `a`; if one of them fails it raises.  Nothing becomes durable. -/
def Writes (p : Prog Row ε α) (rows : List Row) (n : ℕ) (rows' : List Row) (a : α) : Prop :=
  ∀ (fails : ℕ → Option ε) (committed : List Row) (t : ℕ),
    ((∀ i < n, fails (t + i) = none) →
      p.run sch fails ⟨committed, rows, t⟩ = (.ok a, ⟨committed, rows', t + n⟩)) ∧
    ∀ i < n, fails (t + i) ≠ none → (∀ j < i, fails (t + j) = none) →
      ∃ e current t',
        p.run sch fails ⟨committed, rows, t⟩ = (.error e, ⟨committed, current, t'⟩)

variable {sch} {rows rows' rows'' : List Row} {n m : ℕ} {d d' : ℕ → List Row} {a : α} {b : β}

theorem Executes.congr {p : Prog Row ε α} (h : p.Executes sch rows n d a)
    (hd : ∀ i ≤ n, d i = d' i) : p.Executes sch rows n d' a := by
  intro fails t
  refine ⟨fun hok => ?_, fun i hi hf hj => ?_⟩
  · rw [(h fails t).1 hok, hd n (Nat.le_refl n)]
  · obtain ⟨e, t', hrun⟩ := (h fails t).2 i hi hf hj
    exact ⟨e, t', by rw [hrun, hd i (Nat.le_of_lt hi)]⟩

theorem executes_done (a : α) :
    (done (.ok a) : Prog Row ε α).Executes sch rows 0 (fun _ => rows) a :=
  fun _ _ => ⟨fun _ => rfl, fun i hi => absurd hi (Nat.not_lt_zero i)⟩

theorem executes_bind {p : Prog Row ε α} {f : α → Prog Row ε β} (hp : p.Executes sch rows n d a)
    (hf : (f a).Executes sch (d n) m d' b) :
    (p >>= f).Executes sch rows (n + m) (fun i => if i < n then d i else d' (i - n)) b := by
  intro fails t
  have hshift : ∀ i, t + n + i = t + (n + i) := fun i => Nat.add_assoc t n i
  refine ⟨fun hok => ?_, fun i hi hfail hj => ?_⟩
  · have h₁ := (hp fails t).1 (fun i hi => hok i (by omega))
    have h₂ := (hf fails (t + n)).1 (fun i hi => by rw [hshift]; exact hok (n + i) (by omega))
    rw [run_bind_ok h₁, h₂]
    simp only [Nat.not_lt.mpr (Nat.le_add_right n m), if_false, Nat.add_sub_cancel_left,
      Nat.add_assoc]
  · by_cases hin : i < n
    · obtain ⟨e, t', hrun⟩ := (hp fails t).2 i hin hfail hj
      exact ⟨e, t', by rw [run_bind_error hrun]; simp only [hin, if_true]⟩
    · have h₁ := (hp fails t).1 (fun j hjn => hj j (by omega))
      obtain ⟨e, t', hrun⟩ := (hf fails (t + n)).2 (i - n) (by omega)
        (by rw [hshift, Nat.add_sub_cancel' (by omega)]; exact hfail)
        (fun j hjn => by rw [hshift]; exact hj (n + j) (by omega))
      exact ⟨e, t', by rw [run_bind_ok h₁, hrun]; simp only [hin, if_false]⟩

/-- Programs that leave the store as it is compose without bookkeeping. -/
theorem executes_bind_const {p : Prog Row ε α} {f : α → Prog Row ε β}
    (hp : p.Executes sch rows n (fun _ => rows) a)
    (hf : (f a).Executes sch rows m d' b) (hd : ∀ i, d' i = rows) :
    (p >>= f).Executes sch rows (n + m) (fun _ => rows) b :=
  (executes_bind hp hf).congr (fun i _ => by rw [hd]; exact ite_self rows)

/-- Reading first moves the commit point. -/
theorem executes_bind_read {k : ℕ} {p : Prog Row ε α} {f : α → Prog Row ε β}
    (hp : p.Executes sch rows n (fun _ => rows) a)
    (hf : (f a).Executes sch rows m (fun i => if i ≤ k then rows else rows') b) :
    (p >>= f).Executes sch rows (n + m) (fun i => if i ≤ n + k then rows else rows') b := by
  refine (executes_bind hp hf).congr (fun i _ => ?_)
  split_ifs <;> first | rfl | omega

/-- A program whose value is only passed on. -/
theorem executes_map {p : Prog Row ε α} (hp : p.Executes sch rows n d a) (f : α → β) :
    (p >>= fun a => done (.ok (f a))).Executes sch rows n d (f a) := by
  have hdone : (done (.ok (f a)) : Prog Row ε β).Executes sch (d n) 0 (fun _ => d n) (f a) :=
    executes_done (f a)
  refine (executes_bind (m := 0) hp hdone).congr (fun i hi => ?_)
  show (if i < n then d i else d n) = d i
  split
  · rfl
  · have hin : i = n := Nat.le_antisymm hi (Nat.not_lt.mp (by assumption))
    rw [hin]

theorem executes_select :
    (call .select : Prog Row ε (Reply Row)).Executes sch rows 1 (fun _ => rows)
      { rows := rows } := by
  intro fails t
  refine ⟨fun hok => ?_, fun i hi hfail _ => ?_⟩
  · have h0 : fails t = none := hok 0 Nat.zero_lt_one
    rw [run_call, Stmt.serve, h0]
  · obtain rfl := Nat.lt_one_iff.mp hi
    obtain ⟨e, he⟩ : ∃ e, fails t = some e := Option.ne_none_iff_exists'.mp hfail
    exact ⟨e, t + 1, by rw [run_call, Stmt.serve, he]⟩

theorem executes_step :
    (call .step : Prog Row ε (Reply Row)).Executes sch rows 1 (fun _ => rows) {} := by
  intro fails t
  refine ⟨fun hok => ?_, fun i hi hfail _ => ?_⟩
  · have h0 : fails t = none := hok 0 Nat.zero_lt_one
    rw [run_call, Stmt.serve, h0]
  · obtain rfl := Nat.lt_one_iff.mp hi
    obtain ⟨e, he⟩ : ∃ e, fails t = some e := Option.ne_none_iff_exists'.mp hfail
    exact ⟨e, t + 1, by rw [run_call, Stmt.serve, he]⟩

/-- After an exception the rollback restores the durable rows, even when it fails itself. -/
theorem run_rollback (sch : Schema Key Row ε) (fails : ℕ → Option ε) (σ : Session Row) (e : ε) :
    ∃ t', (exec .rollback (fun _ => done (.error e)) : Prog Row ε α).run sch fails σ
      = (.error e, ⟨σ.committed, σ.committed, t'⟩) := by
  rw [run_exec]
  unfold Stmt.serve
  cases fails σ.time with
  | none => exact ⟨σ.time + 1, rfl⟩
  | some e' => exact ⟨σ.time + 1, rfl⟩

theorem run_atomically_error {p : Prog Row ε α} {fails : ℕ → Option ε} {σ σ' : Session Row} {e : ε}
    (h : p.run sch fails σ = (.error e, σ')) :
    ∃ t', (atomically p).run sch fails σ
      = (.error e, ⟨σ'.committed, σ'.committed, t'⟩) := by
  obtain ⟨t', ht'⟩ := run_rollback (α := α) sch fails σ' e
  refine ⟨t', ?_⟩
  rw [atomically, run_handle, run_bind_error h]
  exact ht'

theorem run_atomically_ok {p : Prog Row ε α} {fails : ℕ → Option ε} {σ : Session Row}
    {committed current : List Row} {t : ℕ} {a : α}
    (h : p.run sch fails σ = (.ok a, ⟨committed, current, t⟩)) :
    (fails t = none →
      (atomically p).run sch fails σ = (.ok a, ⟨current, current, t + 1⟩)) ∧
    (fails t ≠ none →
      ∃ e t', (atomically p).run sch fails σ = (.error e, ⟨committed, committed, t'⟩)) := by
  refine ⟨fun hok => ?_, fun hfail => ?_⟩
  · rw [atomically, run_handle, run_bind_ok h, run_bind, run_call, Stmt.serve, hok]
    rfl
  · obtain ⟨e, he⟩ := Option.ne_none_iff_exists'.mp hfail
    obtain ⟨t', ht'⟩ := run_rollback (α := α) sch fails ⟨committed, current, t + 1⟩ e
    refine ⟨e, t', ?_⟩
    rw [atomically, run_handle, run_bind_ok h, run_bind, run_call, Stmt.serve, he]
    exact ht'

/-- A transaction makes the changes of its body durable with its last statement. -/
theorem executes_atomically_writes {p : Prog Row ε α} (hp : p.Writes sch rows n rows' a) :
    (atomically p).Executes sch rows (n + 1) (fun i => if i ≤ n then rows else rows') a := by
  intro fails t
  refine ⟨fun hok => ?_, fun i hi hfail hj => ?_⟩
  · have h₁ := (hp fails rows t).1 (fun i hi => hok i (by omega))
    rw [(run_atomically_ok h₁).1 (hok n (Nat.lt_succ_self n))]
    simp only [Nat.not_succ_le_self, if_false, Nat.add_assoc]
  · simp only [Nat.le_of_lt_succ hi, if_true]
    by_cases hin : i < n
    · obtain ⟨e, current, t', hrun⟩ := (hp fails rows t).2 i hin hfail hj
      obtain ⟨t'', ht''⟩ := run_atomically_error hrun
      exact ⟨e, t'', ht''⟩
    · obtain rfl : i = n := by omega
      exact (run_atomically_ok ((hp fails rows t).1 hj)).2 hfail

theorem writes_done (a : α) : (done (.ok a) : Prog Row ε α).Writes sch rows 0 rows a :=
  fun _ _ _ => ⟨fun _ => rfl, fun i hi => absurd hi (Nat.not_lt_zero i)⟩

theorem writes_bind {p : Prog Row ε α} {f : α → Prog Row ε β} (hp : p.Writes sch rows n rows' a)
    (hf : (f a).Writes sch rows' m rows'' b) : (p >>= f).Writes sch rows (n + m) rows'' b := by
  intro fails committed t
  have hshift : ∀ i, t + n + i = t + (n + i) := fun i => Nat.add_assoc t n i
  refine ⟨fun hok => ?_, fun i hi hfail hj => ?_⟩
  · have h₁ := (hp fails committed t).1 (fun i hi => hok i (by omega))
    have h₂ := (hf fails committed (t + n)).1
      (fun i hi => by rw [hshift]; exact hok (n + i) (by omega))
    rw [run_bind_ok h₁, h₂, Nat.add_assoc]
  · by_cases hin : i < n
    · obtain ⟨e, current, t', hrun⟩ := (hp fails committed t).2 i hin hfail hj
      exact ⟨e, current, t', run_bind_error hrun⟩
    · have h₁ := (hp fails committed t).1 (fun j hjn => hj j (by omega))
      obtain ⟨e, current, t', hrun⟩ := (hf fails committed (t + n)).2 (i - n) (by omega)
        (by rw [hshift, Nat.add_sub_cancel' (by omega)]; exact hfail)
        (fun j hjn => by rw [hshift]; exact hj (n + j) (by omega))
      exact ⟨e, current, t', by rw [run_bind_ok h₁, hrun]⟩

/-- A program whose value is only passed on. -/
theorem writes_map {p : Prog Row ε α} (hp : p.Writes sch rows n rows' a) (f : α → β) :
    (p >>= fun a => done (.ok (f a))).Writes sch rows n rows' (f a) :=
  writes_bind (m := 0) hp (writes_done (f a))

theorem writes_select :
    (call .select : Prog Row ε (Reply Row)).Writes sch rows 1 rows { rows := rows } := by
  intro fails committed t
  refine ⟨fun hok => ?_, fun i hi hfail _ => ?_⟩
  · have h0 : fails t = none := hok 0 Nat.zero_lt_one
    rw [run_call, Stmt.serve, h0]
  · obtain rfl := Nat.lt_one_iff.mp hi
    obtain ⟨e, he⟩ : ∃ e, fails t = some e := Option.ne_none_iff_exists'.mp hfail
    exact ⟨e, rows, t + 1, by rw [run_call, Stmt.serve, he]⟩

theorem writes_insert {row : Row} (h : sch.admits rows row = true) :
    (call (.insert row) : Prog Row ε (Reply Row)).Writes sch rows 1 (rows ++ [row])
      { count := 1 } := by
  intro fails committed t
  refine ⟨fun hok => ?_, fun i hi hfail _ => ?_⟩
  · have h0 : fails t = none := hok 0 Nat.zero_lt_one
    rw [run_call, Stmt.serve, h0]
    exact if_pos h
  · obtain rfl := Nat.lt_one_iff.mp hi
    obtain ⟨e, he⟩ : ∃ e, fails t = some e := Option.ne_none_iff_exists'.mp hfail
    exact ⟨e, rows, t + 1, by rw [run_call, Stmt.serve, he]⟩

theorem writes_change (c : Change Row) :
    (call (.change c) : Prog Row ε (Reply Row)).Writes sch rows 1 (c.apply rows)
      { count := rows.countP c.guard } := by
  intro fails committed t
  refine ⟨fun hok => ?_, fun i hi hfail _ => ?_⟩
  · have h0 : fails t = none := hok 0 Nat.zero_lt_one
    rw [run_call, Stmt.serve, h0]
  · obtain rfl := Nat.lt_one_iff.mp hi
    obtain ⟨e, he⟩ : ∃ e, fails t = some e := Option.ne_none_iff_exists'.mp hfail
    exact ⟨e, rows, t + 1, by rw [run_call, Stmt.serve, he]⟩

/-! ### Transactions that commit on the way -/

/-- Started with the rows `rows'` of its own over the durable ones `rows`, the program issues `n`
statements, ends without changes of its own and returns `a`.  If the first statement to fail is
the one number `i`, it raises and leaves `durable i`. -/
def Commits (sch : Schema Key Row ε) (p : Prog Row ε α) (rows rows' : List Row) (n : ℕ)
    (durable : ℕ → List Row) (a : α) : Prop :=
  ∀ (fails : ℕ → Option ε) (t : ℕ),
    ((∀ i < n, fails (t + i) = none) →
      p.run sch fails ⟨rows, rows', t⟩ = (.ok a, ⟨durable n, durable n, t + n⟩)) ∧
    ∀ i < n, fails (t + i) ≠ none → (∀ j < i, fails (t + j) = none) →
      ∃ e current t', p.run sch fails ⟨rows, rows', t⟩ = (.error e, ⟨durable i, current, t'⟩)

theorem Executes.commits {p : Prog Row ε α} (h : p.Executes sch rows n d a) :
    p.Commits sch rows rows n d a := by
  intro fails t
  refine ⟨(h fails t).1, fun i hi hfail hj => ?_⟩
  obtain ⟨e, t', hrun⟩ := (h fails t).2 i hi hfail hj
  exact ⟨e, _, t', hrun⟩

/-- What is written before the commit is not durable: it moves the commit point. -/
theorem commits_bind {k : ℕ} {new : List Row} {p : Prog Row ε α} {f : α → Prog Row ε β}
    (hp : p.Writes sch rows' n rows'' a)
    (hf : (f a).Commits sch rows rows'' m (fun i => if i ≤ k then rows else new) b) :
    (p >>= f).Commits sch rows rows' (n + m) (fun i => if i ≤ n + k then rows else new) b := by
  intro fails t
  have hshift : ∀ i, t + n + i = t + (n + i) := fun i => Nat.add_assoc t n i
  have hpoint : ∀ i, n ≤ i → (if i ≤ n + k then rows else new)
      = if i - n ≤ k then rows else new := by
    intro i hi
    split_ifs <;> first | rfl | omega
  refine ⟨fun hok => ?_, fun i hi hfail hj => ?_⟩
  · have h₁ := (hp fails rows t).1 (fun i hi => hok i (by omega))
    have h₂ := (hf fails (t + n)).1 (fun i hi => by rw [hshift]; exact hok (n + i) (by omega))
    rw [run_bind_ok h₁, h₂]
    beta_reduce
    rw [hpoint (n + m) (Nat.le_add_right n m), Nat.add_sub_cancel_left, Nat.add_assoc]
  · by_cases hin : i < n
    · obtain ⟨e, current, t', hrun⟩ := (hp fails rows t).2 i hin hfail hj
      have hbefore : i ≤ n + k := by omega
      refine ⟨e, current, t', ?_⟩
      rw [run_bind_error hrun]
      beta_reduce
      rw [if_pos hbefore]
    · have h₁ := (hp fails rows t).1 (fun j hjn => hj j (by omega))
      obtain ⟨e, current, t', hrun⟩ := (hf fails (t + n)).2 (i - n) (by omega)
        (by rw [hshift, Nat.add_sub_cancel' (by omega)]; exact hfail)
        (fun j hjn => by rw [hshift]; exact hj (n + j) (by omega))
      refine ⟨e, current, t', ?_⟩
      rw [run_bind_ok h₁, hrun]
      beta_reduce
      rw [hpoint i (Nat.not_lt.mp hin)]

/-- The commit makes everything durable, and what follows leaves it so. -/
theorem commits_commit {p : Prog Row ε α} (hp : p.Executes sch rows' n (fun _ => rows') a) :
    (call .commit >>= fun _ => p).Commits sch rows rows' (n + 1)
      (fun i => if i ≤ 0 then rows else rows') a := by
  intro fails t
  have hrun : (call .commit >>= fun _ => p).run sch fails ⟨rows, rows', t⟩ = match fails t with
      | none => p.run sch fails ⟨rows', rows', t + 1⟩
      | some e => (.error e, ⟨rows, rows', t + 1⟩) := by
    rw [run_bind, run_call, Stmt.serve]
    cases fails t <;> rfl
  have hshift : ∀ i, t + 1 + i = t + (i + 1) := fun i => by omega
  refine ⟨fun hok => ?_, fun i hi hfail hj => ?_⟩
  · have h0 : fails t = none := hok 0 (Nat.succ_pos n)
    rw [hrun, h0]
    have hlater := (hp fails (t + 1)).1 (fun i hi => by rw [hshift]; exact hok (i + 1) (by omega))
    beta_reduce
    rw [if_neg (Nat.not_succ_le_zero n)]
    rw [hshift] at hlater
    exact hlater
  · cases i with
    | zero =>
      obtain ⟨e, he⟩ : ∃ e, fails t = some e := Option.ne_none_iff_exists'.mp hfail
      exact ⟨e, rows', t + 1, by rw [hrun, he]; rfl⟩
    | succ i =>
      have h0 : fails t = none := hj 0 (Nat.succ_pos i)
      obtain ⟨e, t', hlater⟩ := (hp fails (t + 1)).2 i (by omega)
        (by rw [hshift]; exact hfail) (fun j hji => by rw [hshift]; exact hj (j + 1) (by omega))
      exact ⟨e, _, t', by rw [hrun, h0]; exact hlater⟩

/-- A transaction around a program that commits for itself adds one statement. -/
theorem executes_atomically {p : Prog Row ε α} (hp : p.Commits sch rows rows n d a) :
    (atomically p).Executes sch rows (n + 1) (fun i => if i ≤ n then d i else d n) a := by
  intro fails t
  refine ⟨fun hok => ?_, fun i hi hfail hj => ?_⟩
  · have h₁ := (hp fails t).1 (fun i hi => hok i (by omega))
    rw [(run_atomically_ok h₁).1 (hok n (Nat.lt_succ_self n))]
    simp only [Nat.not_succ_le_self, if_false, Nat.add_assoc]
  · simp only [Nat.le_of_lt_succ hi, if_true]
    by_cases hin : i < n
    · obtain ⟨e, current, t', hrun⟩ := (hp fails t).2 i hin hfail hj
      obtain ⟨t'', ht''⟩ := run_atomically_error hrun
      exact ⟨e, t'', ht''⟩
    · obtain rfl : i = n := by omega
      exact (run_atomically_ok ((hp fails t).1 hj)).2 hfail

/-- A handler that only translates the exception changes nothing else. -/
theorem executes_handle_throw {p : Prog Row ε α} (f : ε → ε) (hp : p.Executes sch rows n d a) :
    (p.handle (fun e => done (.error (f e)))).Executes sch rows n d a := by
  intro fails t
  refine ⟨fun hok => ?_, fun i hi hfail hj => ?_⟩
  · rw [run_handle, (hp fails t).1 hok]
  · obtain ⟨e, t', hrun⟩ := (hp fails t).2 i hi hfail hj
    exact ⟨f e, t', by rw [run_handle, hrun]; rfl⟩

/-- What a program of fixed length leaves behind is decided by the first failure, if any. -/
theorem Executes.run_committed {p : Prog Row ε α} (h : p.Executes sch rows n d a)
    (fails : ℕ → Option ε) :
    ((∀ i < n, fails i = none) ∧ (p.run sch fails (.ofRows rows)).1 = .ok a ∧
      (p.run sch fails (.ofRows rows)).2.committed = d n) ∨
    ∃ i < n, fails i ≠ none ∧ (∀ j < i, fails j = none) ∧
      (∃ e, (p.run sch fails (.ofRows rows)).1 = .error e) ∧
      (p.run sch fails (.ofRows rows)).2.committed = d i := by
  classical
  by_cases hall : ∀ i < n, fails i = none
  · left
    have hrun := (h fails 0).1 (fun i hi => by rw [Nat.zero_add]; exact hall i hi)
    refine ⟨hall, ?_, ?_⟩
    · exact congrArg Prod.fst hrun
    · exact congrArg (fun x => x.2.committed) hrun
  · right
    have hex : ∃ i, i < n ∧ fails i ≠ none := by
      push Not at hall
      exact hall
    have hfirst : ∀ j < Nat.find hex, fails j = none := by
      intro j hj
      by_contra hne
      exact Nat.find_min hex hj ⟨Nat.lt_trans hj (Nat.find_spec hex).1, hne⟩
    obtain ⟨e, t', hrun⟩ := (h fails 0).2 (Nat.find hex) (Nat.find_spec hex).1
      (by rw [Nat.zero_add]; exact (Nat.find_spec hex).2)
      (fun j hj => by rw [Nat.zero_add]; exact hfirst j hj)
    exact ⟨Nat.find hex, (Nat.find_spec hex).1, (Nat.find_spec hex).2, hfirst,
      ⟨e, congrArg Prod.fst hrun⟩, congrArg (fun x => x.2.committed) hrun⟩

/-- The first `n` statements succeed. -/
def Succeeds (fails : ℕ → Option ε) (n : ℕ) : Prop := ∀ i < n, fails i = none

theorem Succeeds.mono {fails : ℕ → Option ε} {m : ℕ} (h : Succeeds fails n) (hm : m ≤ n) :
    Succeeds fails m := fun i hi => h i (Nat.lt_of_lt_of_le hi hm)

/-- A program whose statement number `k` is its commit point returns and has its effect when all
statements succeed; else it raises, with its effect when those up to `k` succeed. -/
theorem Executes.run_cases {k : ℕ} {p : Prog Row ε α} (hk : k < n)
    (h : p.Executes sch rows n (fun i => if i ≤ k then rows else rows') a)
    (fails : ℕ → Option ε) :
    ((p.run sch fails (.ofRows rows)).1 = .ok a ∧
      (p.run sch fails (.ofRows rows)).2.committed = rows' ∧ Succeeds fails n) ∨
    (∃ e, (p.run sch fails (.ofRows rows)).1 = .error e) ∧ ¬ Succeeds fails n ∧
      ((p.run sch fails (.ofRows rows)).2.committed = rows ∧ ¬ Succeeds fails (k + 1) ∨
        (p.run sch fails (.ofRows rows)).2.committed = rows' ∧ Succeeds fails (k + 1)) := by
  rcases h.run_committed fails with ⟨hall, hok, hc⟩ | ⟨i, hin, hfail, hfirst, herror, hc⟩
  · rw [if_neg (Nat.not_le_of_lt hk)] at hc
    exact Or.inl ⟨hok, hc, hall⟩
  · refine Or.inr ⟨herror, fun hall => hfail (hall i hin), ?_⟩
    by_cases hi : i ≤ k
    · rw [if_pos hi] at hc
      exact Or.inl ⟨hc, fun hall => hfail (hall i (Nat.lt_succ_of_le hi))⟩
    · rw [if_neg hi] at hc
      exact Or.inr ⟨hc, fun j hj => hfirst j (by omega)⟩

end Executes

end Prog

/-! ## Invariants of a serial run -/

namespace Prog

/-- Started from rows with the property `I`, the program only ever leaves rows with it, reads
rows with it, and ends with a result that satisfies `Q`. -/
def Keeps (sch : Schema Key Row ε) (I : List Row → Prop) (Q : Except ε α → Prop) :
    Prog Row ε α → Prop
  | done r => Q r
  | exec .select k =>
    (∀ rows, I rows → (k (.ok { rows := rows })).Keeps sch I Q) ∧
      ∀ e, (k (.error e)).Keeps sch I Q
  | exec (.change c) k =>
    (∀ rows, I rows → I (c.apply rows)) ∧ ∀ r, (k r).Keeps sch I Q
  | exec (.insert row) k =>
    (∀ rows, I rows → sch.admits rows row = true → I (rows ++ [row])) ∧
      ∀ r, (k r).Keeps sch I Q
  | exec .commit k => ∀ r, (k r).Keeps sch I Q
  | exec .rollback k => ∀ r, (k r).Keeps sch I Q
  | exec .step k => ∀ r, (k r).Keeps sch I Q

section Keeps

variable {sch : Schema Key Row ε} {I : List Row → Prop} {Q : Except ε α → Prop}
  {R : Except ε β → Prop}

theorem keeps_mono {Q' : Except ε α → Prop} {p : Prog Row ε α} (h : p.Keeps sch I Q)
    (hQ : ∀ r, Q r → Q' r) : p.Keeps sch I Q' := by
  induction p with
  | done r => exact hQ r h
  | exec s k ih =>
    cases s with
    | select => exact ⟨fun rows hI => ih _ (h.1 rows hI), fun e => ih _ (h.2 e)⟩
    | change c => exact ⟨h.1, fun r => ih r (h.2 r)⟩
    | insert row => exact ⟨h.1, fun r => ih r (h.2 r)⟩
    | commit => exact fun r => ih r (h r)
    | rollback => exact fun r => ih r (h r)
    | step => exact fun r => ih r (h r)

theorem keeps_bind {p : Prog Row ε α} {f : α → Prog Row ε β} (h : p.Keeps sch I Q)
    (hok : ∀ a, Q (.ok a) → (f a).Keeps sch I R) (herror : ∀ e, Q (.error e) → R (.error e)) :
    (p >>= f).Keeps sch I R := by
  induction p with
  | done r =>
    cases r with
    | ok a => exact hok a h
    | error e => exact herror e h
  | exec s k ih =>
    cases s with
    | select => exact ⟨fun rows hI => ih _ (h.1 rows hI), fun e => ih _ (h.2 e)⟩
    | change c => exact ⟨h.1, fun r => ih r (h.2 r)⟩
    | insert row => exact ⟨h.1, fun r => ih r (h.2 r)⟩
    | commit => exact fun r => ih r (h r)
    | rollback => exact fun r => ih r (h r)
    | step => exact fun r => ih r (h r)

theorem keeps_handle {Q' : Except ε α → Prop} {p : Prog Row ε α} {f : ε → Prog Row ε α}
    (h : p.Keeps sch I Q) (hok : ∀ a, Q (.ok a) → Q' (.ok a))
    (herror : ∀ e, Q (.error e) → (f e).Keeps sch I Q') : (p.handle f).Keeps sch I Q' := by
  induction p with
  | done r =>
    cases r with
    | ok a => exact hok a h
    | error e => exact herror e h
  | exec s k ih =>
    cases s with
    | select => exact ⟨fun rows hI => ih _ (h.1 rows hI), fun e => ih _ (h.2 e)⟩
    | change c => exact ⟨h.1, fun r => ih r (h.2 r)⟩
    | insert row => exact ⟨h.1, fun r => ih r (h.2 r)⟩
    | commit => exact fun r => ih r (h r)
    | rollback => exact fun r => ih r (h r)
    | step => exact fun r => ih r (h r)

theorem keeps_atomically {p : Prog Row ε α} (h : p.Keeps sch I Q)
    (herror : ∀ e, Q (.error e)) : (atomically p).Keeps sch I Q := by
  refine keeps_handle (Q := Q) ?_ (fun _ ha => ha) (fun e _ => fun _ => herror e)
  refine keeps_bind h (fun a ha => ?_) (fun e _ => herror e)
  intro r
  cases r with
  | ok _ => exact ha
  | error e => exact herror e

/-- **Invariant rule of a serial run.** -/
theorem Keeps.run {p : Prog Row ε α} (h : p.Keeps sch I Q) (fails : ℕ → Option ε)
    {σ : Session Row} (hc : I σ.committed) (hI : I σ.current) :
    Q (p.run sch fails σ).1 ∧ I (p.run sch fails σ).2.committed ∧
      I (p.run sch fails σ).2.current := by
  induction p generalizing σ with
  | done r => exact ⟨h, hc, hI⟩
  | exec s k ih =>
    rw [run_exec]
    cases s with
    | select =>
      cases hf : fails σ.time with
      | none =>
        simp only [Stmt.serve, hf]
        exact ih _ (h.1 _ hI) hc hI
      | some e =>
        simp only [Stmt.serve, hf]
        exact ih _ (h.2 e) hc hI
    | change c =>
      cases hf : fails σ.time with
      | none =>
        simp only [Stmt.serve, hf]
        exact ih _ (h.2 _) hc (h.1 _ hI)
      | some e =>
        simp only [Stmt.serve, hf]
        exact ih _ (h.2 _) hc hI
    | insert row =>
      cases hf : fails σ.time with
      | none =>
        simp only [Stmt.serve, hf]
        split
        · exact ih _ (h.2 _) hc (h.1 _ hI (by assumption))
        · exact ih _ (h.2 _) hc hI
      | some e =>
        simp only [Stmt.serve, hf]
        exact ih _ (h.2 _) hc hI
    | commit =>
      cases hf : fails σ.time with
      | none =>
        simp only [Stmt.serve, hf]
        exact ih _ (h _) hI hI
      | some e =>
        simp only [Stmt.serve, hf]
        exact ih _ (h _) hc hI
    | rollback =>
      cases hf : fails σ.time with
      | none =>
        simp only [Stmt.serve, hf]
        exact ih _ (h _) hc hc
      | some e =>
        simp only [Stmt.serve, hf]
        exact ih _ (h _) hc hc
    | step =>
      cases hf : fails σ.time with
      | none =>
        simp only [Stmt.serve, hf]
        exact ih _ (h _) hc hI
      | some e =>
        simp only [Stmt.serve, hf]
        exact ih _ (h _) hc hI

/-- The statement keeps a property of the rows. -/
def Preserves (sch : Schema Key Row ε) (I : List Row → Prop) : Stmt Row → Prop
  | .change c => ∀ rows, I rows → I (c.apply rows)
  | .insert row => ∀ rows, I rows → sch.admits rows row = true → I (rows ++ [row])
  | _ => True

instance : Quiet (Preserves sch I) := ⟨trivial, trivial, trivial, trivial⟩

/-- A program all of whose statements keep a property keeps it. -/
theorem Issues.keeps {p : Prog Row ε α} (h : p.Issues (Preserves sch I)) :
    p.Keeps sch I (fun _ => True) := by
  induction p with
  | done r => trivial
  | exec s k ih =>
    cases s with
    | select => exact ⟨fun _ _ => ih _ (h.2 _), fun _ => ih _ (h.2 _)⟩
    | change c => exact ⟨h.1, fun r => ih r (h.2 r)⟩
    | insert row => exact ⟨h.1, fun r => ih r (h.2 r)⟩
    | commit => exact fun r => ih r (h.2 r)
    | rollback => exact fun r => ih r (h.2 r)
    | step => exact fun r => ih r (h.2 r)

end Keeps

end Prog

/-- A program that does not commit leaves the durable rows alone. -/
theorem Prog.Issues.run_committed {sch : Schema Key Row ε} {p : Prog Row ε α}
    (h : p.Issues (fun s => s ≠ .commit)) (fails : ℕ → Option ε) (σ : Session Row) :
    (p.run sch fails σ).2.committed = σ.committed := by
  induction p generalizing σ with
  | done r => rfl
  | exec s k ih =>
    rw [Prog.run_exec, ih _ (h.2 _)]
    unfold Stmt.serve
    cases hf : fails σ.time with
    | some e => cases s <;> rfl
    | none =>
      cases s with
      | insert row =>
        dsimp only
        split <;> rfl
      | commit => exact absurd rfl h.1
      | _ => rfl

/-! ## Which failures a run depends on -/

section Times

variable {sch : Schema Key Row ε} {fails fails' : ℕ → Option ε}

theorem Stmt.serve_time (s : Stmt Row) (σ : Session Row) :
    (s.serve sch fails σ).2.time = σ.time + 1 := by
  unfold Stmt.serve
  cases fails σ.time with
  | some e => cases s <;> rfl
  | none =>
    cases s with
    | insert row =>
      dsimp only
      split <;> rfl
    | _ => rfl

theorem Prog.time_le_run (p : Prog Row ε α) (σ : Session Row) :
    σ.time ≤ (p.run sch fails σ).2.time := by
  induction p generalizing σ with
  | done r => exact le_rfl
  | exec s k ih =>
    rw [Prog.run_exec]
    refine le_trans ?_ (ih _ _)
    rw [Stmt.serve_time]
    exact Nat.le_succ _

/-- A run depends on the failures of its own statements only. -/
theorem Prog.run_congr (p : Prog Row ε α) (σ : Session Row)
    (h : ∀ i < (p.run sch fails σ).2.time, fails' i = fails i) :
    p.run sch fails' σ = p.run sch fails σ := by
  induction p generalizing σ with
  | done r => rfl
  | exec s k ih =>
    have hnext : (s.serve sch fails σ).2.time ≤ ((Prog.exec s k).run sch fails σ).2.time :=
      Prog.time_le_run _ _
    rw [Stmt.serve_time] at hnext
    have hserve : s.serve sch fails' σ = s.serve sch fails σ := by
      unfold Stmt.serve
      rw [h σ.time hnext]
    rw [Prog.run_exec, Prog.run_exec, hserve]
    exact ih _ _ h

theorem Stmt.serve_shift (s : Stmt Row) (σ : Session Row) (d : ℕ)
    (h : fails' (σ.time + d) = fails σ.time) :
    s.serve sch fails' { σ with time := σ.time + d } = ((s.serve sch fails σ).1,
      { (s.serve sch fails σ).2 with time := (s.serve sch fails σ).2.time + d }) := by
  have htime : σ.time + 1 + d = σ.time + d + 1 := Nat.add_right_comm _ _ _
  unfold Stmt.serve
  dsimp only
  rw [h]
  cases fails σ.time with
  | some e => cases s <;> simp only [htime]
  | none =>
    cases s with
    | insert row =>
      dsimp only
      split <;> simp only [htime]
    | _ => simp only [htime]

/-- A run that starts later is the same run. -/
theorem Prog.run_shift (p : Prog Row ε α) (σ : Session Row) (d : ℕ)
    (h : ∀ i, σ.time ≤ i → fails' (i + d) = fails i) :
    p.run sch fails' { σ with time := σ.time + d } = ((p.run sch fails σ).1,
      { (p.run sch fails σ).2 with time := (p.run sch fails σ).2.time + d }) := by
  induction p generalizing σ with
  | done r => rfl
  | exec s k ih =>
    rw [Prog.run_exec, Prog.run_exec, Stmt.serve_shift s σ d (h σ.time le_rfl)]
    refine ih _ _ (fun i hi => h i ?_)
    rw [Stmt.serve_time] at hi
    exact Nat.le_of_succ_le hi

end Times

/-! ## What a success shows -/

namespace Prog

section Success

variable {sch : Schema Key Row ε} {fails : ℕ → Option ε} {σ σ' : Session Row} {a : α} {b : β}

theorem run_bind_eq_ok {p : Prog Row ε α} {f : α → Prog Row ε β} :
    (p >>= f).run sch fails σ = (.ok b, σ') ↔
      ∃ a σ₁, p.run sch fails σ = (.ok a, σ₁) ∧ (f a).run sch fails σ₁ = (.ok b, σ') := by
  rw [run_bind]
  constructor
  · intro h
    match hp : p.run sch fails σ with
    | (.ok a, σ₁) =>
      rw [hp] at h
      exact ⟨a, σ₁, rfl, h⟩
    | (.error e, σ₁) =>
      rw [hp] at h
      exact nomatch h
  · rintro ⟨a, σ₁, hp, hf⟩
    rw [hp]
    exact hf

theorem run_insert_eq_ok {row : Row} {r : Reply Row}
    (h : (call (.insert row)).run sch fails σ = (.ok r, σ')) :
    sch.admits σ.current row = true ∧ σ'.committed = σ.committed ∧
      σ'.current = σ.current ++ [row] := by
  rw [run_call] at h
  unfold Stmt.serve at h
  cases hf : fails σ.time with
  | some e => simp only [hf, Prod.mk.injEq, reduceCtorEq, false_and] at h
  | none =>
    simp only [hf] at h
    split at h
    · obtain ⟨-, rfl⟩ := Prod.mk.inj h
      exact ⟨by assumption, rfl, rfl⟩
    · exact nomatch h

theorem run_select_eq_ok {r : Reply Row} (h : (call .select).run sch fails σ = (.ok r, σ')) :
    r.rows = σ.current ∧ σ'.committed = σ.committed ∧ σ'.current = σ.current := by
  rw [run_call] at h
  unfold Stmt.serve at h
  cases hf : fails σ.time with
  | some e => simp only [hf, Prod.mk.injEq, reduceCtorEq, false_and] at h
  | none =>
    simp only [hf] at h
    obtain ⟨hr, rfl⟩ := Prod.mk.inj h
    cases hr
    exact ⟨rfl, rfl, rfl⟩

theorem run_step_committed (fails : ℕ → Option ε) (σ : Session Row) {r : Reply Row}
    (h : (call .step).run sch fails σ = (.ok r, σ')) :
    σ'.committed = σ.committed ∧ σ'.current = σ.current := by
  rw [run_call] at h
  unfold Stmt.serve at h
  cases hf : fails σ.time with
  | some e => simp only [hf, Prod.mk.injEq, reduceCtorEq, false_and] at h
  | none =>
    simp only [hf] at h
    obtain ⟨-, rfl⟩ := Prod.mk.inj h
    exact ⟨rfl, rfl⟩

theorem run_atomically_eq_ok {p : Prog Row ε α}
    (h : (atomically p).run sch fails σ = (.ok a, σ')) :
    ∃ σ₁, p.run sch fails σ = (.ok a, σ₁) ∧ σ'.committed = σ₁.current ∧
      σ'.current = σ₁.current := by
  rw [atomically, run_handle] at h
  match hp : (p >>= fun a => call Stmt.commit >>= fun _ => pure a).run sch fails σ with
  | (.ok a', σ₂) =>
    have h' : (Except.ok a', σ₂) = ((.ok a, σ') : Except ε α × Session Row) := by
      rw [← h]
      erw [hp]
    cases h'
    obtain ⟨a₁, σ₁, hbody, hrest⟩ := run_bind_eq_ok.mp hp
    obtain ⟨r, σ₃, hcommit, hret⟩ := run_bind_eq_ok.mp hrest
    cases hret
    rw [run_call] at hcommit
    unfold Stmt.serve at hcommit
    cases hf : fails σ₁.time with
    | some e => simp only [hf, Prod.mk.injEq, reduceCtorEq, false_and] at hcommit
    | none =>
      simp only [hf] at hcommit
      obtain ⟨-, rfl⟩ := Prod.mk.inj hcommit
      exact ⟨σ₁, hbody, rfl, rfl⟩
  | (.error e, σ₂) =>
    obtain ⟨t', hrb⟩ := run_rollback (α := α) sch fails σ₂ e
    have h' : (Except.error e, (⟨σ₂.committed, σ₂.committed, t'⟩ : Session Row))
        = ((.ok a, σ') : Except ε α × Session Row) := by
      rw [← h, ← hrb]
      erw [hp]
    exact nomatch h'

/-- A transaction whose body does not commit for itself changes nothing durable, or makes
everything durable that its body has written. -/
theorem run_atomically_committed (sch : Schema Key Row ε) {p : Prog Row ε α}
    (h : p.Issues (fun s => s ≠ .commit))
    (fails : ℕ → Option ε) (σ : Session Row) :
    ((atomically p).run sch fails σ).2.current = ((atomically p).run sch fails σ).2.committed ∧
    (((atomically p).run sch fails σ).2.committed = σ.committed ∨
      ∃ a σ₁, p.run sch fails σ = (.ok a, σ₁) ∧
        ((atomically p).run sch fails σ).2.committed = σ₁.current) := by
  have hcommitted : (p.run sch fails σ).2.committed = σ.committed := h.run_committed fails σ
  match hp : p.run sch fails σ with
  | (.error e, σ₁) =>
    rw [hp] at hcommitted
    obtain ⟨t', ht'⟩ := run_atomically_error hp
    rw [ht']
    exact ⟨rfl, Or.inl hcommitted⟩
  | (.ok a, ⟨committed, current, t⟩) =>
    rw [hp] at hcommitted
    obtain ⟨hok, hfail⟩ := run_atomically_ok hp
    cases hf : fails t with
    | none =>
      rw [hok hf]
      exact ⟨rfl, Or.inr ⟨a, _, rfl, rfl⟩⟩
    | some e =>
      obtain ⟨e', t', ht'⟩ := hfail (by rw [hf]; exact fun h => nomatch h)
      rw [ht']
      exact ⟨rfl, Or.inl hcommitted⟩

/-- A transaction around a program that ends without changes of its own adds nothing. -/
theorem run_atomically_settled {p : Prog Row ε α} (fails : ℕ → Option ε) (σ : Session Row)
    (h : (p.run sch fails σ).2.current = (p.run sch fails σ).2.committed) :
    ((atomically p).run sch fails σ).2.committed = (p.run sch fails σ).2.committed := by
  match hp : p.run sch fails σ with
  | (.error e, σ₁) =>
    obtain ⟨t', ht'⟩ := run_atomically_error hp
    rw [ht']
  | (.ok a, ⟨committed, current, t⟩) =>
    rw [hp] at h
    obtain ⟨hok, hfail⟩ := run_atomically_ok hp
    cases hf : fails t with
    | none =>
      rw [hok hf]
      exact h
    | some e =>
      obtain ⟨e', t', ht'⟩ := hfail (by rw [hf]; exact fun h => nomatch h)
      rw [ht']

/-- What follows a program without a commit leaves durable what the program left. -/
theorem run_bind_committed (p : Prog Row ε α) {f : α → Prog Row ε β}
    (h : ∀ a, (f a).Issues (fun s => s ≠ .commit)) (fails : ℕ → Option ε) (σ : Session Row) :
    ((p >>= f).run sch fails σ).2.committed = (p.run sch fails σ).2.committed := by
  rw [run_bind]
  match hp : p.run sch fails σ with
  | (.error e, σ₁) => rfl
  | (.ok a, σ₁) => exact (h a).run_committed fails σ₁

end Success

end Prog

/-! ## How a program can end alone -/

namespace Prog

section CanEnd

variable (sch : Schema Key Row ε)

/-- Some run of the program, with nothing pending at its start, ends with the result, leaves the
rows durable and nothing pending. -/
def CanEnd (p : Prog Row ε α) (rows : List Row) (r : Except ε α) (rows' : List Row) : Prop :=
  ∃ fails t, p.run sch fails (.ofRows rows) = (r, ⟨rows', rows', t⟩)

variable {sch} {p : Prog Row ε α} {f : α → Prog Row ε β} {rows rows' rows'' : List Row}

theorem canEnd_of_run {r : Except ε α} {fails : ℕ → Option ε} {t t' : ℕ}
    (h : p.run sch fails ⟨rows, rows, t⟩ = (r, ⟨rows', rows', t'⟩)) :
    p.CanEnd sch rows r rows' := by
  have hshift := @run_shift _ _ _ _ _ sch (fun i => fails (i + t)) fails p (.ofRows rows) t
    (fun _ _ => rfl)
  have hstart : ({ Session.ofRows rows with time := 0 + t } : Session Row) = ⟨rows, rows, t⟩ := by
    rw [Nat.zero_add]
    rfl
  have hend := hshift.symm.trans ((congrArg _ hstart).trans h)
  obtain ⟨hr, hσ⟩ := Prod.mk.inj hend
  refine ⟨fun i => fails (i + t), (p.run sch (fun i => fails (i + t)) (.ofRows rows)).2.time,
    Prod.ext hr ?_⟩
  obtain ⟨hcommitted, hcurrent, -⟩ := Session.mk.inj hσ
  exact congrArg₂ (fun c r => Session.mk c r _) hcommitted hcurrent

theorem canEnd_bind {a : α} {r : Except ε β} (hp : p.CanEnd sch rows (.ok a) rows')
    (hf : (f a).CanEnd sch rows' r rows'') : (p >>= f).CanEnd sch rows r rows'' := by
  obtain ⟨fails, t, hp⟩ := hp
  obtain ⟨fails', t', hf⟩ := hf
  let both : ℕ → Option ε := fun i => if i < t then fails i else fails' (i - t)
  have hfirst : p.run sch both (.ofRows rows) = (.ok a, ⟨rows', rows', t⟩) := by
    rw [← hp]
    refine run_congr p _ (fun i hi => if_pos ?_)
    rw [hp] at hi
    exact hi
  have hlater : ∀ i, both (i + t) = fails' i := by
    intro i
    show (if i + t < t then _ else _) = _
    rw [if_neg (by omega), Nat.add_sub_cancel]
  have hnext := @run_shift _ _ _ _ _ sch fails' both (f a) (.ofRows rows') t
    (fun i _ => hlater i)
  rw [hf] at hnext
  refine ⟨both, t' + t, ?_⟩
  rw [run_bind_ok hfirst, ← hnext]
  show _ = (f a).run sch both ⟨rows', rows', 0 + t⟩
  rw [Nat.zero_add]

theorem canEnd_bind_error {e : ε} (hp : p.CanEnd sch rows (.error e) rows') :
    (p >>= f).CanEnd sch rows (.error e) rows' := by
  obtain ⟨fails, t, hp⟩ := hp
  exact ⟨fails, t, run_bind_error hp⟩

end CanEnd

end Prog

end Transaction

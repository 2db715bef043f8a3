/-
# Interleaved transactions

Any number of calls run transactional programs against one store, and their statements
interleave.  Rows are versioned cells: a call that changes a row holds its lock until it
commits or rolls back, and everyone else reads the committed version.  An `UPDATE` fixes
the rows it is meant for when it starts, then visits them one by one, waits for a lock
that another call holds, and tests its guard again on the version it finds.

The module proves what such a system keeps in every reachable state: the versions of a
row follow the changes that the programs can make, a call that reports success has made
its change durable, and a change that can only happen once is made by one call.

A key is never drawn twice, so a key that was ever present counts as taken.
-/
import ControlPlane.Transaction
import Mathlib.Logic.Relation
import Mathlib.Logic.Function.Basic
import Mathlib.Data.List.Forall2
import Mathlib.Data.List.Nodup
import Mathlib.Order.Basic

namespace Transaction

variable {Key Row ε α : Type}

/-! ## Cells -/

/-- A version of a row, and the call that wrote it; a version without a row is a deletion,
a version without an author was there from the start. -/
structure Version (Row : Type) where
  author : Option ℕ
  row : Option Row

/-- The newest row of a list of versions, newest first. -/
def newest (l : List (Version Row)) : Option Row := l.head?.bind Version.row

@[simp] theorem newest_nil : newest ([] : List (Version Row)) = none := rfl
@[simp] theorem newest_cons (v : Version Row) (l : List (Version Row)) :
    newest (v :: l) = v.row := rfl

theorem mem_of_newest {l : List (Version Row)} {r : Row} (h : newest l = some r) :
    ∃ v ∈ l, v.row = some r := by
  cases l with
  | nil => exact nomatch h
  | cons v rest => exact ⟨v, List.mem_cons_self, h⟩

/-- All versions of a row, newest first: the committed ones, and those of the call that
holds the lock. -/
structure Cell (Key Row : Type) where
  key : Key
  committed : List (Version Row)
  pending : List (Version Row) := []

namespace Cell

/-- The versions of a cell, newest first. -/
def trail (cell : Cell Key Row) : List (Version Row) := cell.pending ++ cell.committed

/-- The call holding the lock of the row. -/
def owner (cell : Cell Key Row) : Option ℕ := cell.pending.head?.bind Version.author

/-- No other call than `n` has uncommitted changes. -/
def FreeFor (n : ℕ) (cell : Cell Key Row) : Prop := cell.pending = [] ∨ cell.owner = some n

/-- The row as the call `n` reads it. -/
def visible (n : ℕ) (cell : Cell Key Row) : Option Row :=
  if cell.owner = some n then newest cell.trail else newest cell.committed

/-- The call `n` ends its transaction and keeps its changes. -/
def commit (n : ℕ) (cell : Cell Key Row) : Cell Key Row :=
  if cell.owner = some n then { cell with committed := cell.trail, pending := [] } else cell

/-- The call `n` ends its transaction and gives its changes up. -/
def rollback (n : ℕ) (cell : Cell Key Row) : Cell Key Row :=
  if cell.owner = some n then { cell with pending := [] } else cell

/-- The change is meant for the newest version of the row. -/
def Matches (c : Change Row) (cell : Cell Key Row) : Prop :=
  ∃ r, newest cell.trail = some r ∧ c.guard r = true

instance (c : Change Row) (cell : Cell Key Row) : Decidable (cell.Matches c) :=
  match h : newest cell.trail with
  | some r => if hr : c.guard r = true then isTrue ⟨r, h, hr⟩
      else isFalse (by rintro ⟨r', h', hr'⟩; rw [h] at h'; cases h'; exact hr hr')
  | none => isFalse (by rintro ⟨r', h', -⟩; rw [h] at h'; cases h')

/-- The call `n` writes a new version. -/
def write (n : ℕ) (c : Change Row) (cell : Cell Key Row) : Cell Key Row :=
  { cell with pending := ⟨some n, (newest cell.trail).bind c.set⟩ :: cell.pending }

/-- The call `n` visits a row for an `UPDATE`. -/
def visit (n : ℕ) (c : Change Row) (cell : Cell Key Row) : Cell Key Row :=
  if cell.Matches c then cell.write n c else cell

@[simp] theorem key_commit (n : ℕ) (cell : Cell Key Row) : (cell.commit n).key = cell.key := by
  unfold commit
  split <;> rfl

@[simp] theorem key_rollback (n : ℕ) (cell : Cell Key Row) :
    (cell.rollback n).key = cell.key := by
  unfold rollback
  split <;> rfl

@[simp] theorem key_visit (n : ℕ) (c : Change Row) (cell : Cell Key Row) :
    (cell.visit n c).key = cell.key := by
  unfold visit
  split <;> rfl

@[simp] theorem trail_commit (n : ℕ) (cell : Cell Key Row) :
    (cell.commit n).trail = cell.trail := by
  unfold commit
  split <;> rfl

theorem trail_write (n : ℕ) (c : Change Row) (cell : Cell Key Row) :
    (cell.write n c).trail = ⟨some n, (newest cell.trail).bind c.set⟩ :: cell.trail := rfl

theorem committed_visit (n : ℕ) (c : Change Row) (cell : Cell Key Row) :
    (cell.visit n c).committed = cell.committed := by
  unfold visit
  split <;> rfl

theorem committed_rollback (n : ℕ) (cell : Cell Key Row) :
    (cell.rollback n).committed = cell.committed := by
  unfold rollback
  split <;> rfl

/-- The committed versions are the oldest ones. -/
theorem committed_suffix (cell : Cell Key Row) : cell.committed <:+ cell.trail :=
  List.suffix_append _ _

theorem trail_rollback_suffix (n : ℕ) (cell : Cell Key Row) :
    (cell.rollback n).trail <:+ cell.trail := by
  unfold rollback
  split
  · exact cell.committed_suffix
  · exact List.suffix_rfl

end Cell

/-! ## The system -/

/-- How far a call has come: its remaining program and, while an `UPDATE` is under way, the
cells it still has to visit and the number of rows changed. -/
structure Progress (Row ε α : Type) where
  prog : Prog Row ε α
  scan : Option (List ℕ × ℕ) := none

/-- The store and the calls. -/
structure State (Key Row ε α : Type) where
  cells : List (Cell Key Row)
  calls : ℕ → Progress Row ε α

/-- The rows that the call `n` reads. -/
def visibleRows (n : ℕ) (cells : List (Cell Key Row)) : List Row :=
  cells.filterMap (Cell.visible n)

/-- The rows that are committed. -/
def committedRows (cells : List (Cell Key Row)) : List Row :=
  cells.filterMap (fun cell => newest cell.committed)

/-- The row of a cell that the call `n` reads passes the guard. -/
def targeted (n : ℕ) (c : Change Row) (cell : Cell Key Row) : Bool :=
  (cell.visible n).any c.guard

/-- The cells an `UPDATE` of the call `n` is meant for when it starts. -/
def targets (n : ℕ) (c : Change Row) (cells : List (Cell Key Row)) : List ℕ :=
  cells.findIdxs (targeted n c)

variable (sch : Schema Key Row ε)

/-- The answers to the statements of the call `n`, an `UPDATE` that succeeds excepted.  Any
statement may fail without effect, or break the connection so that the changes of the call
are lost; a commit may take effect and still be reported as failed. -/
inductive Answers (n : ℕ) (cells : List (Cell Key Row)) :
    Stmt Row → Except ε (Reply Row) → List (Cell Key Row) → Prop
  | select : Answers n cells .select (.ok { rows := visibleRows n cells }) cells
  | step : Answers n cells .step (.ok {}) cells
  | insert (row : Row) : (∀ cell ∈ cells, cell.key ≠ sch.key row) →
      sch.refers (visibleRows n cells) row = true →
      Answers n cells (.insert row) (.ok { count := 1 })
        (cells ++ [{ key := sch.key row, committed := [], pending := [⟨some n, some row⟩] }])
  | commit : Answers n cells .commit (.ok {}) (cells.map (Cell.commit n))
  | rollback : Answers n cells .rollback (.ok {}) (cells.map (Cell.rollback n))
  | fails (s : Stmt Row) (e : ε) : Answers n cells s (.error e) cells
  | disconnects (s : Stmt Row) (e : ε) :
      Answers n cells s (.error e) (cells.map (Cell.rollback n))
  | lostReply (e : ε) : Answers n cells .commit (.error e) (cells.map (Cell.commit n))

open Function in
/-- One step of one call. -/
inductive Step : State Key Row ε α → State Key Row ε α → Prop
  | answer {σ : State Key Row ε α} (n : ℕ) (s : Stmt Row)
      (k : Except ε (Reply Row) → Prog Row ε α) (scan : Option (List ℕ × ℕ))
      (r : Except ε (Reply Row)) (cells : List (Cell Key Row)) :
      σ.calls n = ⟨.exec s k, scan⟩ → Answers sch n σ.cells s r cells →
      Step σ ⟨cells, update σ.calls n ⟨k r, none⟩⟩
  | start {σ : State Key Row ε α} (n : ℕ) (c : Change Row)
      (k : Except ε (Reply Row) → Prog Row ε α) :
      σ.calls n = ⟨.exec (.change c) k, none⟩ →
      Step σ ⟨σ.cells,
        update σ.calls n ⟨.exec (.change c) k, some (targets n c σ.cells, 0)⟩⟩
  | visit {σ : State Key Row ε α} (n : ℕ) (c : Change Row)
      (k : Except ε (Reply Row) → Prog Row ε α) (i : ℕ) (rest : List ℕ) (m : ℕ)
      (cell : Cell Key Row) :
      σ.calls n = ⟨.exec (.change c) k, some (i :: rest, m)⟩ → σ.cells[i]? = some cell →
      cell.FreeFor n →
      Step σ ⟨σ.cells.set i (cell.visit n c), update σ.calls n
        ⟨.exec (.change c) k, some (rest, if cell.Matches c then m + 1 else m)⟩⟩
  | finish {σ : State Key Row ε α} (n : ℕ) (c : Change Row)
      (k : Except ε (Reply Row) → Prog Row ε α) (m : ℕ) :
      σ.calls n = ⟨.exec (.change c) k, some ([], m)⟩ →
      Step σ ⟨σ.cells, update σ.calls n ⟨k (.ok { count := m }), none⟩⟩

/-- The store holds the given rows, and every call is before its first statement. -/
def State.init (rows : List Row) (code : ℕ → Prog Row ε α) : State Key Row ε α where
  cells := rows.map (fun row => { key := sch.key row, committed := [⟨none, some row⟩] })
  calls n := { prog := code n }

/-- The states that the system reaches. -/
def Reachable (rows : List Row) (code : ℕ → Prog Row ε α) : State Key Row ε α → Prop :=
  Relation.ReflTransGen (Step sch) (State.init sch rows code)

variable {sch}

/-- **Invariant rule**: what holds initially and is kept by every step holds always. -/
theorem Reachable.induction {rows : List Row} {code : ℕ → Prog Row ε α}
    {I : State Key Row ε α → Prop} (hinit : I (State.init sch rows code))
    (hstep : ∀ σ σ', I σ → Step sch σ σ' → I σ') {σ : State Key Row ε α}
    (h : Reachable sch rows code σ) : I σ := by
  induction h with
  | refl => exact hinit
  | tail _ hs ih => exact hstep _ _ ih hs

/-! ## Schedules -/

section Schedules

variable [DecidableEq Key]

instance (n : ℕ) (cell : Cell Key Row) : Decidable (cell.FreeFor n) :=
  decidable_of_iff (cell.pending.isEmpty = true ∨ cell.owner = some n)
    (or_congr List.isEmpty_iff Iff.rfl)

variable (sch) in
/-- The call `n` makes one step in which nothing fails by itself; it waits for a lock that
another call holds. -/
def State.advance (n : ℕ) (σ : State Key Row ε α) : State Key Row ε α :=
  let proceed (k : Except ε (Reply Row) → Prog Row ε α) (r : Except ε (Reply Row))
      (cells : List (Cell Key Row)) : State Key Row ε α :=
    ⟨cells, Function.update σ.calls n ⟨k r, none⟩⟩
  match σ.calls n with
  | ⟨.done _, _⟩ => σ
  | ⟨.exec .select k, _⟩ => proceed k (.ok { rows := visibleRows n σ.cells }) σ.cells
  | ⟨.exec .step k, _⟩ => proceed k (.ok {}) σ.cells
  | ⟨.exec .commit k, _⟩ => proceed k (.ok {}) (σ.cells.map (Cell.commit n))
  | ⟨.exec .rollback k, _⟩ => proceed k (.ok {}) (σ.cells.map (Cell.rollback n))
  | ⟨.exec (.insert row) k, _⟩ =>
    if (∀ cell ∈ σ.cells, cell.key ≠ sch.key row) ∧
        sch.refers (visibleRows n σ.cells) row = true then
      proceed k (.ok { count := 1 }) (σ.cells ++
        [{ key := sch.key row, committed := [], pending := [⟨some n, some row⟩] }])
    else proceed k (.error sch.violation) σ.cells
  | ⟨.exec (.change c) k, none⟩ =>
    ⟨σ.cells, Function.update σ.calls n
      ⟨.exec (.change c) k, some (targets n c σ.cells, 0)⟩⟩
  | ⟨.exec (.change _) k, some ([], m)⟩ => proceed k (.ok { count := m }) σ.cells
  | ⟨.exec (.change c) k, some (i :: rest, m)⟩ =>
    match σ.cells[i]? with
    | none => σ
    | some cell =>
      if cell.FreeFor n then
        ⟨σ.cells.set i (cell.visit n c), Function.update σ.calls n
          ⟨.exec (.change c) k, some (rest, if cell.Matches c then m + 1 else m)⟩⟩
      else σ

variable (sch) in
/-- Let the calls of a list make one step each, in turn. -/
def State.schedule (order : List ℕ) (σ : State Key Row ε α) : State Key Row ε α :=
  order.foldl (fun σ n => σ.advance sch n) σ

theorem State.advance_reaches (n : ℕ) (σ : State Key Row ε α) :
    Relation.ReflTransGen (Step sch) σ (σ.advance sch n) := by
  unfold advance
  split
  · exact .refl
  · exact .single (.answer n _ _ _ _ _ (by assumption) .select)
  · exact .single (.answer n _ _ _ _ _ (by assumption) .step)
  · exact .single (.answer n _ _ _ _ _ (by assumption) .commit)
  · exact .single (.answer n _ _ _ _ _ (by assumption) .rollback)
  · split
    · rename_i h
      exact .single (.answer n _ _ _ _ _ (by assumption) (.insert _ h.1 h.2))
    · exact .single (.answer n _ _ _ _ _ (by assumption) (.fails _ _))
  · exact .single (.start n _ _ (by assumption))
  · exact .single (.finish n _ _ _ (by assumption))
  · split
    · exact .refl
    · split
      · exact .single (.visit n _ _ _ _ _ _ (by assumption) (by assumption) (by assumption))
      · exact .refl

/-- A schedule leads to a reachable state. -/
theorem Reachable.schedule (rows : List Row) (code : ℕ → Prog Row ε α) (order : List ℕ) :
    Reachable sch rows code ((State.init sch rows code).schedule sch order) := by
  have h : ∀ (order : List ℕ) (σ : State Key Row ε α),
      Relation.ReflTransGen (Step sch) σ (σ.schedule sch order) := by
    intro order
    induction order with
    | nil => exact fun σ => .refl
    | cons n order ih => exact fun σ => (σ.advance_reaches n).trans (ih _)
  exact h order _

end Schedules

/-! ## What a step does to the cells -/

/-- What the call `n` can do to a cell when it issues statements with the property `P`. -/
inductive Touch (n : ℕ) (P : Stmt Row → Prop) (cell : Cell Key Row) : Cell Key Row → Prop
  | keep : Touch n P cell cell
  | commit : Touch n P cell (cell.commit n)
  | rollback : Touch n P cell (cell.rollback n)
  | write (c : Change Row) (r : Row) : P (.change c) → cell.FreeFor n →
      newest cell.trail = some r → c.guard r = true → Touch n P cell (cell.write n c)

/-- What the call `n` can do to the cells: touch each of them, or add one. -/
inductive Evolves (sch : Schema Key Row ε) (n : ℕ) (P : Stmt Row → Prop)
    (cells : List (Cell Key Row)) : List (Cell Key Row) → Prop
  | touch {cells' : List (Cell Key Row)} : List.Forall₂ (Touch n P) cells cells' →
      Evolves sch n P cells cells'
  | insert (row : Row) : P (.insert row) → (∀ cell ∈ cells, cell.key ≠ sch.key row) →
      Evolves sch n P cells (cells ++
        [{ key := sch.key row, committed := [], pending := [⟨some n, some row⟩] }])

section Evolves

variable {n : ℕ} {P : Stmt Row → Prop} {cells cells' : List (Cell Key Row)}

theorem Evolves.refl : Evolves sch n P cells cells :=
  .touch (List.forall₂_same.mpr (fun _ _ => .keep))

theorem Evolves.map {f : Cell Key Row → Cell Key Row} (hf : ∀ cell, Touch n P cell (f cell)) :
    Evolves sch n P cells (cells.map f) :=
  .touch (List.forall₂_map_right_iff.mpr (List.forall₂_same.mpr (fun cell _ => hf cell)))

theorem forall₂_set {R : Cell Key Row → Cell Key Row → Prop} (hrefl : ∀ a, R a a) {i : ℕ}
    {cell cell' : Cell Key Row} (hi : cells[i]? = some cell) (h : R cell cell') :
    List.Forall₂ R cells (cells.set i cell') := by
  induction cells generalizing i with
  | nil => cases hi
  | cons a rest ih =>
    cases i with
    | zero =>
      rw [List.getElem?_cons_zero, Option.some.injEq] at hi
      subst hi
      exact .cons h (List.forall₂_same.mpr (fun a _ => hrefl a))
    | succ j => exact .cons (hrefl a) (ih hi)

theorem forall₂_exists {R : Cell Key Row → Cell Key Row → Prop} {cell : Cell Key Row}
    (h : List.Forall₂ R cells cells') (hc : cell ∈ cells) : ∃ cell' ∈ cells', R cell cell' := by
  induction h with
  | nil => exact absurd hc List.not_mem_nil
  | cons hab _ ih =>
    rcases List.mem_cons.mp hc with rfl | hc
    · exact ⟨_, List.mem_cons_self, hab⟩
    · obtain ⟨c', hc', hr⟩ := ih hc
      exact ⟨c', List.mem_cons_of_mem _ hc', hr⟩

theorem Evolves.set {i : ℕ} {cell cell' : Cell Key Row} (hi : cells[i]? = some cell)
    (h : Touch n P cell cell') : Evolves sch n P cells (cells.set i cell') :=
  .touch (forall₂_set (fun _ => .keep) hi h)

theorem Answers.evolves {s : Stmt Row} {r : Except ε (Reply Row)} (hP : P s)
    (h : Answers sch n cells s r cells') : Evolves sch n P cells cells' := by
  cases h with
  | select => exact .refl
  | step => exact .refl
  | insert row hfresh _ => exact .insert row hP hfresh
  | commit => exact .map (fun _ => .commit)
  | rollback => exact .map (fun _ => .rollback)
  | fails => exact .refl
  | disconnects => exact .map (fun _ => .rollback)
  | lostReply => exact .map (fun _ => .commit)

theorem Touch.visit {c : Change Row} {cell : Cell Key Row} (hP : P (.change c))
    (h : cell.FreeFor n) : Touch n P cell (cell.visit n c) := by
  unfold Cell.visit
  split
  · rename_i hm
    obtain ⟨r, hr, hc⟩ := hm
    exact .write c r hP h hr hc
  · exact .keep

end Evolves

/-- The program of the call `n` in a state issues statements with the property `P n`. -/
def State.Issues (P : ℕ → Stmt Row → Prop) (σ : State Key Row ε α) : Prop :=
  ∀ n, (σ.calls n).prog.Issues (P n)

/-- **What a step can do**: one call moves, its program stays within its statements, and the
cells evolve by what it may do to them. -/
theorem Step.evolves {P : ℕ → Stmt Row → Prop} {σ σ' : State Key Row ε α} (hP : σ.Issues P)
    (h : Step sch σ σ') : σ'.Issues P ∧ ∃ n, Evolves sch n (P n) σ.cells σ'.cells := by
  have hcalls : ∀ (n : ℕ) (q : Progress Row ε α), q.prog.Issues (P n) →
      ∀ m, ((Function.update σ.calls n q) m).prog.Issues (P m) := by
    intro n q hq m
    by_cases hm : m = n
    · subst hm
      rw [Function.update_self]
      exact hq
    · rw [Function.update_of_ne hm]
      exact hP m
  cases h with
  | answer n s k scan r cells hn hans =>
    have hprog := hP n
    rw [hn] at hprog
    exact ⟨hcalls n _ (hprog.2 r), n, hans.evolves hprog.1⟩
  | start n c k hn =>
    have hprog := hP n
    rw [hn] at hprog
    exact ⟨hcalls n _ hprog, n, .refl⟩
  | visit n c k i rest m cell hn hi hfree =>
    have hprog := hP n
    rw [hn] at hprog
    exact ⟨hcalls n _ hprog, n, .set hi (.visit hprog.1 hfree)⟩
  | finish n c k m hn =>
    have hprog := hP n
    rw [hn] at hprog
    exact ⟨hcalls n _ (hprog.2 _), n, .refl⟩

/-! ## The history of a row -/

/-- The versions of a row, newest first: the oldest one was inserted or there from the start,
and the author of each later one moved the row by `T`. -/
inductive Trail (Init : Row → Prop) (T : ℕ → Option Row → Option Row → Prop) :
    List (Version Row) → Prop
  | nil : Trail Init T []
  | initial (row : Row) : Init row → Trail Init T [⟨none, some row⟩]
  | insert (n : ℕ) (row : Row) : T n none (some row) → Trail Init T [⟨some n, some row⟩]
  | move (n : ℕ) (r : Row) (row : Option Row) (rest : List (Version Row)) :
      newest rest = some r → T n (some r) row → Trail Init T rest →
      Trail Init T (⟨some n, row⟩ :: rest)

/-- The statement moves rows by `T` only. -/
def Follows (T : Option Row → Option Row → Prop) : Stmt Row → Prop
  | .change c => ∀ r, c.guard r = true → T (some r) (c.set r)
  | .insert row => T none (some row)
  | _ => True

instance (T : Option Row → Option Row → Prop) : Prog.Quiet (Follows T) :=
  ⟨trivial, trivial, trivial, trivial⟩

section Trail

variable {Init : Row → Prop} {T : ℕ → Option Row → Option Row → Prop}
  {l : List (Version Row)}

theorem Trail.of_suffix (h : Trail Init T l) {l' : List (Version Row)} (hs : l' <:+ l) :
    Trail Init T l' := by
  induction h with
  | nil =>
    rw [List.suffix_nil.mp hs]
    exact .nil
  | initial row hrow =>
    rcases List.suffix_cons_iff.mp hs with rfl | hs
    · exact .initial row hrow
    · rw [List.suffix_nil.mp hs]
      exact .nil
  | insert n row hT =>
    rcases List.suffix_cons_iff.mp hs with rfl | hs
    · exact .insert n row hT
    · rw [List.suffix_nil.mp hs]
      exact .nil
  | move n r row rest hr hT hrest ih =>
    rcases List.suffix_cons_iff.mp hs with rfl | hs
    · exact .move n r row rest hr hT hrest
    · exact ih hs

/-- What every row has from the start and no move takes away, every version has. -/
theorem Trail.all_rows {W : Row → Prop} (h : Trail Init T l) (hinit : ∀ r, Init r → W r)
    (hinsert : ∀ n r, T n none (some r) → W r)
    (hmove : ∀ n r r', T n (some r) (some r') → W r → W r') :
    ∀ v ∈ l, ∀ r, v.row = some r → W r := by
  induction h with
  | nil => exact fun v hv => absurd hv List.not_mem_nil
  | initial row hrow =>
    intro v hv r hr
    rw [List.mem_singleton.mp hv] at hr
    cases hr
    exact hinit row hrow
  | insert n row hT =>
    intro v hv r hr
    rw [List.mem_singleton.mp hv] at hr
    cases hr
    exact hinsert n row hT
  | move n r row rest hr hT _ ih =>
    intro v hv r' hr'
    rcases List.mem_cons.mp hv with rfl | hv
    · obtain ⟨w, hw, hrow⟩ := mem_of_newest hr
      cases hr'
      exact hmove n r r' hT (ih w hw r hrow)
    · exact ih v hv r' hr'

/-- A rank that no move lowers is highest at the newest version. -/
theorem Trail.rank_le (h : Trail Init T l) {rank : Option Row → ℕ}
    (hmono : ∀ n r q, T n (some r) q → rank (some r) ≤ rank q) :
    ∀ v ∈ l, rank v.row ≤ rank (newest l) := by
  induction h with
  | nil => exact fun v hv => absurd hv List.not_mem_nil
  | initial row _ =>
    intro v hv
    rw [List.mem_singleton.mp hv]
    exact Nat.le_refl _
  | insert n row _ =>
    intro v hv
    rw [List.mem_singleton.mp hv]
    exact Nat.le_refl _
  | move n r row rest hr hT _ ih =>
    intro v hv
    rcases List.mem_cons.mp hv with rfl | hv
    · exact Nat.le_refl _
    · rw [hr] at ih
      exact Nat.le_trans (ih v hv) (hmono n r _ hT)

/-- **A rank that no move lowers passes a given level once**: two versions that lift the rank
from at most `a` to more than `a` are the same. -/
theorem Trail.crossing_unique (h : Trail Init T l) {rank : Option Row → ℕ}
    (hmono : ∀ n r q, T n (some r) q → rank (some r) ≤ rank q) {a : ℕ}
    {l₁ l₂ m₁ m₂ : List (Version Row)} {v w : Version Row} (hv : l = l₁ ++ v :: l₂)
    (hw : l = m₁ ++ w :: m₂) (hv₁ : rank (newest l₂) ≤ a) (hv₂ : a < rank v.row)
    (hw₁ : rank (newest m₂) ≤ a) (hw₂ : a < rank w.row) : v = w := by
  rcases List.append_eq_append_iff.mp (hv.symm.trans hw) with ⟨as, hm, hl⟩ | ⟨bs, hl, hm⟩
  · cases as with
    | nil => exact (List.cons.inj hl).1
    | cons b bs =>
      -- `w` is among the versions before `v`
      obtain ⟨rfl, hl₂⟩ := List.cons.inj hl
      have hsuf : l₂ <:+ l := ⟨l₁ ++ [v], by rw [hv, List.append_assoc]; rfl⟩
      have hmem : w ∈ l₂ := by
        rw [hl₂]
        exact List.mem_append_right _ List.mem_cons_self
      have hle := (h.of_suffix hsuf).rank_le hmono w hmem
      omega
  · cases bs with
    | nil => exact (List.cons.inj hm).1.symm
    | cons b bs =>
      obtain ⟨rfl, hm₂⟩ := List.cons.inj hm
      have hsuf : m₂ <:+ l := ⟨m₁ ++ [w], by rw [hw, List.append_assoc]; rfl⟩
      have hmem : v ∈ m₂ := by
        rw [hm₂]
        exact List.mem_append_right _ List.mem_cons_self
      have hle := (h.of_suffix hsuf).rank_le hmono v hmem
      omega

end Trail

/-! ## Sound cells -/

/-- A cell whose versions follow `T`, whose uncommitted versions are all by one call, and
whose rows have its key. -/
structure Cell.Sound (sch : Schema Key Row ε) (Init : Row → Prop)
    (T : ℕ → Option Row → Option Row → Prop) (cell : Cell Key Row) : Prop where
  trail : Trail Init T cell.trail
  owned : ∀ v ∈ cell.pending, ∃ n, v.author = some n ∧ cell.owner = some n
  keyed : ∀ v ∈ cell.trail, ∀ r, v.row = some r → sch.key r = cell.key

/-- The cells are sound and no two have one key. -/
structure SoundCells (sch : Schema Key Row ε) (Init : Row → Prop)
    (T : ℕ → Option Row → Option Row → Prop) (cells : List (Cell Key Row)) : Prop where
  sound : ∀ cell ∈ cells, cell.Sound sch Init T
  nodup : (cells.map Cell.key).Nodup

section Sound

variable {Init : Row → Prop} {T : ℕ → Option Row → Option Row → Prop}
  {cells cells' : List (Cell Key Row)}

namespace Cell.Sound

variable {cell cell' : Cell Key Row}

/-- The uncommitted versions of a row that a call has written are all its own. -/
theorem owner_write (h : cell.Sound sch Init T) {n : ℕ} (hfree : cell.FreeFor n) (c : Change Row) :
    ∀ v ∈ (cell.write n c).pending, v.author = some n := by
  intro v hv
  rcases List.mem_cons.mp hv with rfl | hv
  · rfl
  · rcases hfree with hnil | hown
    · rw [hnil] at hv
      exact absurd hv List.not_mem_nil
    · obtain ⟨m, hm, hm'⟩ := h.owned v hv
      rw [hm, ← hm', hown]

theorem of_suffix (h : cell.Sound sch Init T) (hkey : cell'.key = cell.key)
    (htrail : cell'.trail <:+ cell.trail) (hpending : cell'.pending = []) :
    cell'.Sound sch Init T where
  trail := h.trail.of_suffix htrail
  owned := by
    intro v hv
    rw [hpending] at hv
    exact absurd hv List.not_mem_nil
  keyed := by
    intro v hv r hr
    rw [hkey]
    exact h.keyed v (htrail.subset hv) r hr

theorem touch (hkey : ∀ n r r', T n (some r) (some r') → sch.key r' = sch.key r) {n : ℕ}
    (h : cell.Sound sch Init T) (ht : Touch n (Follows (T n)) cell cell') :
    cell'.key = cell.key ∧ cell'.Sound sch Init T := by
  cases ht with
  | keep => exact ⟨rfl, h⟩
  | commit =>
    refine ⟨cell.key_commit n, ?_⟩
    by_cases ho : cell.owner = some n
    · exact h.of_suffix (cell.key_commit n) (cell.trail_commit n ▸ List.suffix_rfl)
        (by rw [Cell.commit, if_pos ho])
    · rw [Cell.commit, if_neg ho]
      exact h
  | rollback =>
    refine ⟨cell.key_rollback n, ?_⟩
    by_cases ho : cell.owner = some n
    · exact h.of_suffix (cell.key_rollback n) (cell.trail_rollback_suffix n)
        (by rw [Cell.rollback, if_pos ho])
    · rw [Cell.rollback, if_neg ho]
      exact h
  | write c r hc hfree hr hg =>
    have hT : T n (some r) (c.set r) := hc r hg
    have hset : (newest cell.trail).bind c.set = c.set r := by rw [hr]; rfl
    refine ⟨rfl, ?_, ?_, ?_⟩
    · rw [Cell.trail_write, hset]
      exact .move n r _ _ hr hT h.trail
    · exact fun v hv => ⟨n, h.owner_write hfree c v hv, rfl⟩
    · intro v hv r' hr'
      rw [Cell.trail_write, hset] at hv
      rcases List.mem_cons.mp hv with rfl | hv
      · -- the new version has the key of the one it replaces
        have hr'' : c.set r = some r' := hr'
        rw [hr''] at hT
        obtain ⟨v₀, hv₀, hrow⟩ := mem_of_newest hr
        exact (hkey n r r' hT).trans (h.keyed v₀ hv₀ r hrow)
      · exact h.keyed v hv r' hr'

/-- The newest version of a row has its key. -/
theorem key_of_newest (h : cell.Sound sch Init T) {r : Row} (hr : newest cell.trail = some r) :
    sch.key r = cell.key := by
  obtain ⟨v, hv, hrow⟩ := mem_of_newest hr
  exact h.keyed v hv r hrow

/-- The committed version of a row has its key. -/
theorem key_of_committed (h : cell.Sound sch Init T) {r : Row}
    (hr : newest cell.committed = some r) : sch.key r = cell.key := by
  obtain ⟨v, hv, hrow⟩ := mem_of_newest hr
  exact h.keyed v (cell.committed_suffix.subset hv) r hrow

end Cell.Sound

/-- No two committed rows have one key. -/
theorem SoundCells.nodup_committedRows (h : SoundCells sch Init T cells) :
    ((committedRows cells).map sch.key).Nodup := by
  have hsub : ∀ cells : List (Cell Key Row), (∀ cell ∈ cells, cell.Sound sch Init T) →
      List.Sublist ((committedRows cells).map sch.key) (cells.map Cell.key) := by
    intro cells hsound
    induction cells with
    | nil => exact .slnil
    | cons cell rest ih =>
      have hrest := ih (fun c hc => hsound c (List.mem_cons_of_mem _ hc))
      unfold committedRows at hrest ⊢
      cases hrow : newest cell.committed with
      | none =>
        simp only [List.filterMap_cons, hrow]
        exact .cons _ hrest
      | some r =>
        simp only [List.filterMap_cons, hrow]
        rw [List.map_cons, List.map_cons, (hsound cell List.mem_cons_self).key_of_committed hrow]
        exact .cons_cons _ hrest
  exact (hsub cells h.sound).nodup h.nodup

theorem SoundCells.evolves (hkey : ∀ n r r', T n (some r) (some r') → sch.key r' = sch.key r)
    {n : ℕ} (h : SoundCells sch Init T cells) (he : Evolves sch n (Follows (T n)) cells cells') :
    SoundCells sch Init T cells' := by
  cases he with
  | touch hall =>
    have hboth : cells'.map Cell.key = cells.map Cell.key ∧
        ∀ cell ∈ cells', cell.Sound sch Init T := by
      have hsound := h.sound
      clear h
      induction hall with
      | nil => exact ⟨rfl, fun _ hc => absurd hc List.not_mem_nil⟩
      | cons ht _ ih =>
        obtain ⟨hk, hs⟩ := (hsound _ List.mem_cons_self).touch hkey ht
        obtain ⟨hks, hss⟩ := ih (fun c hc => hsound c (List.mem_cons_of_mem _ hc))
        refine ⟨by rw [List.map_cons, List.map_cons, hk, hks], ?_⟩
        intro c hc
        rcases List.mem_cons.mp hc with rfl | hc
        · exact hs
        · exact hss c hc
    exact ⟨hboth.2, hboth.1 ▸ h.nodup⟩
  | insert row hrow hfresh =>
    refine ⟨?_, ?_⟩
    · intro cell hcell
      rcases List.mem_append.mp hcell with hc | hc
      · exact h.sound cell hc
      · rw [List.mem_singleton.mp hc]
        refine ⟨.insert n _ hrow, ?_, ?_⟩
        · intro v hv
          rw [List.mem_singleton.mp hv]
          exact ⟨n, rfl, rfl⟩
        · intro v hv r hr
          rw [List.mem_singleton.mp hv] at hr
          cases hr
          rfl
    · rw [List.map_append, List.nodup_append]
      refine ⟨h.nodup, List.pairwise_singleton _ _, ?_⟩
      intro k hk k' hk'
      obtain ⟨cell, hcell, rfl⟩ := List.mem_map.mp hk
      rw [List.mem_singleton.mp hk']
      exact hfresh cell hcell

/-- **Every reachable state is sound**: each row only ever moves by what the programs can do
to it. -/
theorem Reachable.sound {rows : List Row} {code : ℕ → Prog Row ε α} {σ : State Key Row ε α}
    (hkey : ∀ n r r', T n (some r) (some r') → sch.key r' = sch.key r)
    (hnodup : (rows.map sch.key).Nodup) (hrows : ∀ r ∈ rows, Init r)
    (hcode : ∀ n, (code n).Issues (Follows (T n))) (h : Reachable sch rows code σ) :
    σ.Issues (fun n => Follows (T n)) ∧ SoundCells sch Init T σ.cells := by
  refine Reachable.induction (I := fun σ => σ.Issues (fun n => Follows (T n)) ∧
    SoundCells sch Init T σ.cells) ?_ ?_ h
  · refine ⟨hcode, ?_, ?_⟩
    · intro cell hcell
      obtain ⟨row, hrow, rfl⟩ := List.mem_map.mp hcell
      refine ⟨.initial row (hrows row hrow), fun v hv => absurd hv List.not_mem_nil, ?_⟩
      intro v hv r hr
      rw [List.mem_singleton.mp hv] at hr
      cases hr
      rfl
    · show ((rows.map _).map Cell.key).Nodup
      rw [List.map_map]
      exact hnodup
  · rintro σ σ' ⟨hissues, hsound⟩ hstep
    obtain ⟨hissues', n, hev⟩ := hstep.evolves hissues
    exact ⟨hissues', hsound.evolves hkey hev⟩

end Sound

/-! ## What a call has done by the time it ends -/

/-- How far a call has come with a change of the kind it is after. -/
inductive Credit where
  | none
  | written
  | durable
  deriving DecidableEq

open Classical in
/-- The credit after a statement and its answer: an `UPDATE` of the right kind that changed a
row is written, a commit makes it durable, a rollback or an exception loses it. -/
noncomputable def Credit.next (hit : Change Row → Prop) :
    Credit → Stmt Row → Except ε (Reply Row) → Credit
  | .durable, _, _ => .durable
  | .written, .commit, .ok _ => .durable
  | .written, .rollback, _ => .none
  | .written, _, .ok _ => .written
  | .written, _, .error _ => .none
  | .none, .change c, .ok r => if hit c ∧ r.count ≠ 0 then .written else .none
  | .none, _, _ => .none

open Classical in
theorem Credit.next_none_change (hit : Change Row → Prop) (c : Change Row) (r : Reply Row) :
    Credit.next (ε := ε) hit .none (.change c) (.ok r)
      = if hit c ∧ r.count ≠ 0 then .written else .none := rfl

/-- The versions contain one that the call `n` wrote by a change of the right kind. -/
def Wrote (hit : Change Row → Prop) (n : ℕ) (l : List (Version Row)) : Prop :=
  ∃ c r l₁ l₂, hit c ∧ c.guard r = true ∧ newest l₂ = some r ∧
    l = l₁ ++ ⟨some n, c.set r⟩ :: l₂

/-- A program that succeeds with `good` only after a durable change of the right kind. -/
def Prog.Earns (hit : Change Row → Prop) (good : α → Prop) (p : Prog Row ε α) : Prop :=
  p.Ends (Credit.next hit) (fun credit r => ∀ a, r = .ok a → good a → credit = .durable) .none

section Credit

variable {hit : Change Row → Prop} {Init : Row → Prop}
  {T : ℕ → Option Row → Option Row → Prop} {cells cells' : List (Cell Key Row)}
  {n m : ℕ} {cell cell' : Cell Key Row}

theorem Wrote.of_append {l l' : List (Version Row)} (h : Wrote hit n l') :
    Wrote hit n (l ++ l') := by
  obtain ⟨c, r, l₁, l₂, hc, hr, hl₂, rfl⟩ := h
  exact ⟨c, r, l ++ l₁, l₂, hc, hr, hl₂, (List.append_assoc _ _ _).symm⟩

/-- A version that is not by the holder of the lock is committed. -/
theorem Wrote.committed (hs : cell.Sound sch Init T) (hm : cell.owner ≠ some n)
    (h : Wrote hit n cell.trail) : Wrote hit n cell.committed := by
  obtain ⟨c, r, l₁, l₂, hc, hr, hl₂, hl⟩ := h
  rcases List.append_eq_append_iff.mp hl with ⟨as, -, has⟩ | ⟨bs, hpending, hbs⟩
  · exact ⟨c, r, as, l₂, hc, hr, hl₂, has⟩
  · cases bs with
    | nil => exact ⟨c, r, [], l₂, hc, hr, hl₂, hbs.symm⟩
    | cons b bs =>
      obtain ⟨rfl, -⟩ := List.cons.inj hbs
      obtain ⟨k, hk, hk'⟩ := hs.owned _
        (by rw [hpending]; exact List.mem_append_right _ List.mem_cons_self)
      cases hk
      exact absurd hk' hm

/-- Committing makes the versions of the call durable. -/
theorem Wrote.commit (hs : cell.Sound sch Init T) (h : Wrote hit n cell.trail) :
    Wrote hit n (cell.commit n).committed := by
  unfold Cell.commit
  split
  · exact h
  · exact h.committed hs (by assumption)

theorem Wrote.committed_touch {P : Stmt Row → Prop} (h : Wrote hit n cell.committed)
    (ht : Touch m P cell cell') : Wrote hit n cell'.committed := by
  cases ht with
  | keep => exact h
  | commit =>
    unfold Cell.commit
    split
    · exact h.of_append
    · exact h
  | rollback =>
    rw [Cell.committed_rollback]
    exact h
  | write c r _ _ _ _ => exact h

/-- Only the call itself can lose its versions. -/
theorem Wrote.trail_touch {P : Stmt Row → Prop} (hs : cell.Sound sch Init T) (hne : m ≠ n)
    (h : Wrote hit n cell.trail) (ht : Touch m P cell cell') : Wrote hit n cell'.trail := by
  cases ht with
  | keep => exact h
  | commit =>
    rw [Cell.trail_commit]
    exact h
  | rollback =>
    unfold Cell.rollback
    split
    · rename_i hm
      refine (h.committed hs ?_).of_append
      rw [hm]
      exact fun hmn => hne (Option.some.inj hmn)
    · exact h
  | write c r _ _ _ _ =>
    rw [Cell.trail_write]
    exact h.of_append (l := [_])

/-- Some cell has a version that the call wrote. -/
def Written (hit : Change Row → Prop) (n : ℕ) (cells : List (Cell Key Row)) : Prop :=
  ∃ cell ∈ cells, Wrote hit n cell.trail

/-- Some cell has a durable version that the call wrote. -/
def Durable (hit : Change Row → Prop) (n : ℕ) (cells : List (Cell Key Row)) : Prop :=
  ∃ cell ∈ cells, Wrote hit n cell.committed

/-- What a credit is worth in the store. -/
def Credit.Backed (hit : Change Row → Prop) (n : ℕ) (cells : List (Cell Key Row)) :
    Credit → Prop
  | .none => True
  | .written => Written hit n cells
  | .durable => Durable hit n cells

theorem Durable.evolves {P : Stmt Row → Prop} (h : Durable hit n cells)
    (he : Evolves sch m P cells cells') : Durable hit n cells' := by
  obtain ⟨cell, hc, hw⟩ := h
  cases he with
  | touch hall =>
    obtain ⟨cell', hc', ht⟩ := forall₂_exists hall hc
    exact ⟨cell', hc', hw.committed_touch ht⟩
  | insert row _ _ => exact ⟨cell, List.mem_append_left _ hc, hw⟩

theorem Written.evolves {P : Stmt Row → Prop} (hs : SoundCells sch Init T cells) (hne : m ≠ n)
    (h : Written hit n cells) (he : Evolves sch m P cells cells') : Written hit n cells' := by
  obtain ⟨cell, hc, hw⟩ := h
  cases he with
  | touch hall =>
    obtain ⟨cell', hc', ht⟩ := forall₂_exists hall hc
    exact ⟨cell', hc', hw.trail_touch (hs.sound cell hc) hne ht⟩
  | insert row _ _ => exact ⟨cell, List.mem_append_left _ hc, hw⟩

theorem Credit.Backed.evolves {P : Stmt Row → Prop} {credit : Credit}
    (hs : SoundCells sch Init T cells) (hne : m ≠ n) (h : credit.Backed hit n cells)
    (he : Evolves sch m P cells cells') : credit.Backed hit n cells' := by
  cases credit with
  | none => trivial
  | written => exact Written.evolves hs hne h he
  | durable => exact Durable.evolves h he

/-- An answer keeps the credit of the call backed. -/
theorem Answers.backed {s : Stmt Row} {r : Except ε (Reply Row)} {credit : Credit}
    (hs : SoundCells sch Init T cells) (h : credit.Backed hit n cells)
    (ha : Answers sch n cells s r cells') : (credit.next hit s r).Backed hit n cells' := by
  cases credit with
  | durable => exact Durable.evolves h (ha.evolves (P := fun _ => True) trivial)
  | none =>
    cases ha with
    | fails => cases s <;> trivial
    | disconnects => cases s <;> trivial
    | _ => trivial
  | written =>
    cases ha with
    | select => exact h
    | step => exact h
    | insert row _ _ =>
      obtain ⟨cell, hc, hw⟩ := h
      exact ⟨cell, List.mem_append_left _ hc, hw⟩
    | commit =>
      obtain ⟨cell, hc, hw⟩ := h
      exact ⟨cell.commit n, List.mem_map_of_mem hc, hw.commit (hs.sound cell hc)⟩
    | rollback => trivial
    | fails => cases s <;> trivial
    | disconnects => cases s <;> trivial
    | lostReply => trivial

/-- What the progress of a call is worth: its program still earns its success, and an `UPDATE`
of the right kind that is under way and has changed a row has written it. -/
structure Progress.Backed (hit : Change Row → Prop) (good : α → Prop) (n : ℕ)
    (cells : List (Cell Key Row)) (q : Progress Row ε α) : Prop where
  credit : ∃ credit : Credit, credit.Backed hit n cells ∧ q.prog.Ends (Credit.next hit)
    (fun credit r => ∀ a, r = .ok a → good a → credit = .durable) credit
  scan : ∀ c k is m, q.prog = .exec (.change c) k → q.scan = some (is, m) → hit c → m ≠ 0 →
    Written hit n cells

theorem Progress.Backed.evolves {good : α → Prop} {P : Stmt Row → Prop} {q : Progress Row ε α}
    (hs : SoundCells sch Init T cells) (hne : m ≠ n) (h : q.Backed hit good n cells)
    (he : Evolves sch m P cells cells') : q.Backed hit good n cells' where
  credit := by
    obtain ⟨credit, hb, hends⟩ := h.credit
    exact ⟨credit, hb.evolves hs hne he, hends⟩
  scan := fun c k is j hq hsc hc hj => (h.scan c k is j hq hsc hc hj).evolves hs hne he

/-- A version that a call has written stays when a call visits rows. -/
theorem Written.visit {c : Change Row} {i : ℕ} (hi : cells[i]? = some cell)
    (h : Written hit n cells) : Written hit n (cells.set i (cell.visit m c)) := by
  obtain ⟨cell₀, hc, hw⟩ := h
  have hall : List.Forall₂ (fun a b => Wrote hit n a.trail → Wrote hit n b.trail) cells
      (cells.set i (cell.visit m c)) := by
    refine forall₂_set (fun _ h => h) hi (fun h => ?_)
    unfold Cell.visit
    split
    · rw [Cell.trail_write]
      exact h.of_append (l := [_])
    · exact h
  obtain ⟨cell₁, hc₁, hw₁⟩ := forall₂_exists hall hc
  exact ⟨cell₁, hc₁, hw₁ hw⟩

/-- Visiting a row that matches a change of the right kind writes such a version. -/
theorem written_of_visit {c : Change Row} {i : ℕ} (hi : cells[i]? = some cell) (hc : hit c)
    (hm : cell.Matches c) : Written hit n (cells.set i (cell.visit n c)) := by
  obtain ⟨r, hr, hg⟩ := hm
  refine ⟨cell.visit n c, List.mem_set (List.getElem?_eq_some_iff.mp hi).1 _, ?_⟩
  rw [Cell.visit, if_pos ⟨r, hr, hg⟩, Cell.trail_write, hr]
  exact ⟨c, r, [], cell.trail, hc, hg, hr, rfl⟩

theorem Progress.Backed.step {good : α → Prop} {σ σ' : State Key Row ε α}
    (hs : SoundCells sch Init T σ.cells) (hP : σ.Issues (fun n => Follows (T n)))
    (h : (σ.calls n).Backed hit good n σ.cells) (hstep : Step sch σ σ') :
    (σ'.calls n).Backed hit good n σ'.cells := by
  cases hstep with
  | answer m s k scan r cells' hm hans =>
    by_cases hne : m = n
    · subst hne
      rw [hm] at h
      obtain ⟨credit, hb, hends⟩ := h.credit
      show ((Function.update σ.calls m _) m).Backed hit good m cells'
      rw [Function.update_self]
      exact ⟨⟨_, hans.backed hs hb, hends r⟩, fun _ _ _ _ _ hsc => nomatch hsc⟩
    · have hprog := hP m
      rw [hm] at hprog
      show ((Function.update σ.calls m _) n).Backed hit good n cells'
      rw [Function.update_of_ne (Ne.symm hne)]
      exact h.evolves hs hne (hans.evolves hprog.1)
  | start m c k hm =>
    show ((Function.update σ.calls m _) n).Backed hit good n σ.cells
    by_cases hne : m = n
    · subst hne
      rw [hm] at h
      rw [Function.update_self]
      refine ⟨h.credit, fun c' k' is j _ hsc _ hj => ?_⟩
      cases hsc
      exact absurd rfl hj
    · rw [Function.update_of_ne (Ne.symm hne)]
      exact h
  | visit m c k i rest j cell hm hi hfree =>
    by_cases hne : m = n
    · subst hne
      rw [hm] at h
      obtain ⟨credit, hb, hends⟩ := h.credit
      show ((Function.update σ.calls m _) m).Backed hit good m (σ.cells.set i _)
      rw [Function.update_self]
      refine ⟨⟨credit, ?_, hends⟩, fun c' k' is j' hq hsc hc hj => ?_⟩
      · cases credit with
        | none => trivial
        | written => exact Written.visit hi hb
        | durable =>
          have hev : Evolves sch m (fun _ => True) σ.cells (σ.cells.set i (cell.visit m c)) :=
            .set hi (.visit trivial hfree)
          exact Durable.evolves hb hev
      · cases hq
        cases hsc
        by_cases hmatch : cell.Matches c
        · exact written_of_visit hi hc hmatch
        · rw [if_neg hmatch] at hj
          exact (h.scan c k _ j rfl rfl hc hj).visit hi
    · have hprog := hP m
      rw [hm] at hprog
      show ((Function.update σ.calls m _) n).Backed hit good n (σ.cells.set i _)
      rw [Function.update_of_ne (Ne.symm hne)]
      have hev : Evolves sch m (Follows (T m)) σ.cells (σ.cells.set i (cell.visit m c)) :=
        .set hi (.visit hprog.1 hfree)
      exact h.evolves hs hne hev
  | finish m c k j hm =>
    show ((Function.update σ.calls m _) n).Backed hit good n σ.cells
    by_cases hne : m = n
    · subst hne
      rw [hm] at h
      obtain ⟨credit, hb, hends⟩ := h.credit
      rw [Function.update_self]
      refine ⟨⟨_, ?_, hends _⟩, fun _ _ _ _ _ hsc => nomatch hsc⟩
      cases credit with
      | durable => exact hb
      | written => exact hb
      | none =>
        rw [Credit.next_none_change]
        split
        · rename_i hcj
          exact h.scan c k [] j rfl rfl hcj.1 hcj.2
        · trivial
    · rw [Function.update_of_ne (Ne.symm hne)]
      exact h

/-- **Success is earned**: in every reachable state, a call that has ended with a good result
has a durable change of the kind that its program needs for it. -/
theorem Reachable.earned {good : α → Prop} {rows : List Row} {code : ℕ → Prog Row ε α}
    {σ : State Key Row ε α}
    (hkey : ∀ n r r', T n (some r) (some r') → sch.key r' = sch.key r)
    (hnodup : (rows.map sch.key).Nodup) (hrows : ∀ r ∈ rows, Init r)
    (hcode : ∀ n, (code n).Issues (Follows (T n))) (hearns : (code n).Earns hit good)
    (h : Reachable sch rows code σ) {a : α} (hdone : (σ.calls n).prog = .done (.ok a))
    (hgood : good a) : ∃ cell ∈ σ.cells, Wrote hit n cell.committed := by
  have hall : (σ.Issues (fun n => Follows (T n)) ∧ SoundCells sch Init T σ.cells) ∧
      (σ.calls n).Backed hit good n σ.cells := by
    refine Reachable.induction (I := fun σ =>
      (σ.Issues (fun n => Follows (T n)) ∧ SoundCells sch Init T σ.cells) ∧
        (σ.calls n).Backed hit good n σ.cells) ?_ ?_ h
    · refine ⟨Reachable.sound hkey hnodup hrows hcode .refl, ⟨.none, trivial, hearns⟩, ?_⟩
      exact fun _ _ _ _ _ hsc => nomatch hsc
    · rintro σ σ' ⟨⟨hissues, hsound⟩, hbacked⟩ hstep
      obtain ⟨hissues', m, hev⟩ := hstep.evolves hissues
      exact ⟨⟨hissues', hsound.evolves hkey hev⟩, hbacked.step hsound hissues hstep⟩
  obtain ⟨credit, hb, hends⟩ := hall.2.credit
  rw [hdone] at hends
  rw [hends a rfl hgood] at hb
  exact hb

/-- The row that a call replaced has the key of the cell. -/
theorem Wrote.elim (hs : cell.Sound sch Init T) (h : Wrote hit n cell.committed) :
    ∃ c r l₁ l₂, hit c ∧ c.guard r = true ∧ newest l₂ = some r ∧
      cell.committed = l₁ ++ ⟨some n, c.set r⟩ :: l₂ ∧ sch.key r = cell.key := by
  obtain ⟨c, r, l₁, l₂, hc, hg, hl₂, hl⟩ := h
  refine ⟨c, r, l₁, l₂, hc, hg, hl₂, hl, ?_⟩
  match l₂, hl₂ with
  | v :: rest, hv =>
    refine hs.keyed v (cell.committed_suffix.subset ?_) r hv
    rw [hl]
    exact List.mem_append_right _ (List.mem_cons_of_mem _ List.mem_cons_self)

/-- **At most one winner**: two calls that made durable changes which lift the rank of the row
with the key `k` past the level `a` are the same call. -/
theorem Durable.unique {hit' : Change Row → Prop} {rank : Option Row → ℕ} {a : ℕ} {k : Key}
    (hs : SoundCells sch Init T cells) (hmono : ∀ n r q, T n (some r) q → rank (some r) ≤ rank q)
    (hhit : ∀ c r, hit c ∨ hit' c → c.guard r = true →
      sch.key r = k ∧ rank (some r) ≤ a ∧ a < rank (c.set r))
    (h : Durable hit n cells) (h' : Durable hit' m cells) : n = m := by
  obtain ⟨cell, hcell, hw⟩ := h
  obtain ⟨cell', hcell', hw'⟩ := h'
  obtain ⟨c, r, l₁, l₂, hc, hg, hl₂, hl, hkr⟩ := hw.elim (hs.sound cell hcell)
  obtain ⟨c', r', m₁, m₂, hc', hg', hm₂, hm, hkr'⟩ := hw'.elim (hs.sound cell' hcell')
  obtain ⟨hk, hr₁, hr₂⟩ := hhit c r (Or.inl hc) hg
  obtain ⟨hk', hr₁', hr₂'⟩ := hhit c' r' (Or.inr hc') hg'
  have hsame : cell = cell' :=
    List.inj_on_of_nodup_map hs.nodup hcell hcell' (by rw [← hkr, ← hkr', hk, hk'])
  subst hsame
  have htrail := (hs.sound cell hcell).trail.of_suffix cell.committed_suffix
  rw [← hl₂] at hr₁
  rw [← hm₂] at hr₁'
  have hver := htrail.crossing_unique hmono hl hm hr₁ hr₂ hr₁' hr₂'
  exact Option.some.inj (Version.mk.inj hver).1

end Credit

end Transaction

/-
# Threads with atomic sections

A thread of a process is a sequence of atomic sections on a world that all threads share: a
section under a lock, or a call that is served in one go.  Between two sections of one
thread the others may run any of theirs.  A section may carry a mark.

The module has the threads with their combinators, a run of one thread alone, and the pool
in which threads interleave.
-/
import Mathlib.Logic.Function.Basic
import Mathlib.Data.Nat.Notation
import Mathlib.Logic.Relation
import Mathlib.Tactic.Common

namespace Threads

variable {World Mark ε α β : Type}

/-- A thread.  The next section is chosen by the world that this one finds. -/
inductive Thread (World Mark ε α : Type) where
  | done (result : Except ε α)
  | atom (mark : Option Mark) (effect : World → World)
      (next : World → Thread World Mark ε α)

namespace Thread

/-- Run a thread, then another on its value. -/
def bind : Thread World Mark ε α → (α → Thread World Mark ε β) → Thread World Mark ε β
  | done (.ok a), f => f a
  | done (.error e), _ => done (.error e)
  | atom mark effect next, f => atom mark effect (fun w => (next w).bind f)

instance : Monad (Thread World Mark ε) where
  pure a := done (.ok a)
  bind := bind

/-- Run a thread, then a handler on its exception. -/
def handle : Thread World Mark ε α → (ε → Thread World Mark ε α) → Thread World Mark ε α
  | done (.ok a), _ => done (.ok a)
  | done (.error e), h => h e
  | atom mark effect next, h => atom mark effect (fun w => (next w).handle h)

instance : MonadExceptOf ε (Thread World Mark ε) where
  throw e := done (.error e)
  tryCatch := handle

/-- One section, with a result or an exception. -/
def atomic (mark : Option Mark) (f : World → Except ε α × World) : Thread World Mark ε α :=
  atom mark (fun w => (f w).2) (fun w => done (f w).1)

/-- Run a thread alone. -/
def run : Thread World Mark ε α → World → Except ε α × World
  | done r, w => (r, w)
  | atom _ effect next, w => (next w).run (effect w)

@[simp] theorem pure_eq (a : α) : (pure a : Thread World Mark ε α) = done (.ok a) := rfl
@[simp] theorem throw_eq (e : ε) : (throw e : Thread World Mark ε α) = done (.error e) := rfl
@[simp] theorem bind_ok (a : α) (f : α → Thread World Mark ε β) : done (.ok a) >>= f = f a := rfl
@[simp] theorem bind_error (e : ε) (f : α → Thread World Mark ε β) :
    (done (.error e) >>= f) = done (.error e) := rfl
@[simp] theorem run_done (r : Except ε α) (w : World) :
    (done r : Thread World Mark ε α).run w = (r, w) := rfl
@[simp] theorem run_atomic (mark : Option Mark) (f : World → Except ε α × World) (w : World) :
    (atomic mark f).run w = f w := rfl

theorem run_bind (t : Thread World Mark ε α) (f : α → Thread World Mark ε β) (w : World) :
    (t >>= f).run w = match t.run w with
      | (.ok a, w') => (f a).run w'
      | (.error e, w') => (.error e, w') := by
  induction t generalizing w with
  | done r => cases r <;> rfl
  | atom mark effect next ih => exact ih _ _

theorem run_bind_ok {t : Thread World Mark ε α} {f : α → Thread World Mark ε β} {w w' : World}
    {a : α} (h : t.run w = (.ok a, w')) : (t >>= f).run w = (f a).run w' := by
  rw [run_bind, h]

theorem run_bind_error {t : Thread World Mark ε α} {f : α → Thread World Mark ε β} {w w' : World}
    {e : ε} (h : t.run w = (.error e, w')) : (t >>= f).run w = (.error e, w') := by
  rw [run_bind, h]

theorem run_handle (t : Thread World Mark ε α) (h : ε → Thread World Mark ε α) (w : World) :
    (t.handle h).run w = match t.run w with
      | (.ok a, w') => (.ok a, w')
      | (.error e, w') => (h e).run w' := by
  induction t generalizing w with
  | done r => cases r <;> rfl
  | atom mark effect next ih => exact ih _ _

theorem run_bind_eq_ok {t : Thread World Mark ε α} {f : α → Thread World Mark ε β} {w w' : World}
    {b : β} : (t >>= f).run w = (.ok b, w') ↔
      ∃ a w₁, t.run w = (.ok a, w₁) ∧ (f a).run w₁ = (.ok b, w') := by
  rw [run_bind]
  constructor
  · intro h
    match ht : t.run w with
    | (.ok a, w₁) =>
      rw [ht] at h
      exact ⟨a, w₁, rfl, h⟩
    | (.error e, w₁) =>
      rw [ht] at h
      exact nomatch h
  · rintro ⟨a, w₁, ht, hf⟩
    rw [ht]
    exact hf

/-! ## What a thread keeps -/

/-- Every section of the thread keeps `I`, and the thread ends with a result that satisfies
`Q`, whatever the other threads do between its sections, as long as they keep `I` as well. -/
def Keeps (I : World → Prop) (Q : Except ε α → Prop) : Thread World Mark ε α → Prop
  | done r => Q r
  | atom _ effect next => ∀ w, I w → I (effect w) ∧ (next w).Keeps I Q

section Keeps

variable {I : World → Prop} {Q : Except ε α → Prop} {R : Except ε β → Prop}

theorem keeps_mono {Q' : Except ε α → Prop} {t : Thread World Mark ε α} (h : t.Keeps I Q)
    (hQ : ∀ r, Q r → Q' r) : t.Keeps I Q' := by
  induction t with
  | done r => exact hQ r h
  | atom mark effect next ih => exact fun w hw => ⟨(h w hw).1, ih w (h w hw).2⟩

theorem keeps_bind {t : Thread World Mark ε α} {f : α → Thread World Mark ε β}
    (h : t.Keeps I Q) (hok : ∀ a, Q (.ok a) → (f a).Keeps I R)
    (herror : ∀ e, Q (.error e) → R (.error e)) : (t >>= f).Keeps I R := by
  induction t with
  | done r =>
    cases r with
    | ok a => exact hok a h
    | error e => exact herror e h
  | atom mark effect next ih => exact fun w hw => ⟨(h w hw).1, ih w (h w hw).2⟩

theorem keeps_handle {Q' : Except ε α → Prop} {t : Thread World Mark ε α}
    {f : ε → Thread World Mark ε α} (h : t.Keeps I Q) (hok : ∀ a, Q (.ok a) → Q' (.ok a))
    (herror : ∀ e, Q (.error e) → (f e).Keeps I Q') : (t.handle f).Keeps I Q' := by
  induction t with
  | done r =>
    cases r with
    | ok a => exact hok a h
    | error e => exact herror e h
  | atom mark effect next ih => exact fun w hw => ⟨(h w hw).1, ih w (h w hw).2⟩

theorem keeps_atomic {mark : Option Mark} {f : World → Except ε α × World}
    (h : ∀ w, I w → I (f w).2 ∧ Q (f w).1) : (atomic mark f).Keeps I Q := h

/-- **Invariant rule of a thread that runs alone.** -/
theorem Keeps.run {t : Thread World Mark ε α} (h : t.Keeps I Q) {w : World} (hw : I w) :
    Q (t.run w).1 ∧ I (t.run w).2 := by
  induction t generalizing w with
  | done r => exact ⟨h, hw⟩
  | atom mark effect next ih => exact ih w (h w hw).2 (h w hw).1

end Keeps

/-! ## What a thread knows -/

/-- A law for the sections of a thread that knows something, and what it knows after them. -/
structure Tracker (World Mark σ : Type) where
  law : σ → Option Mark → World → World → Prop
  learn : σ → Option Mark → World → σ

/-- Every section keeps `I` and obeys the law with what the thread knows when it runs, and the
thread ends with knowledge and a result that satisfy `Q`, whatever the others do. -/
def Tracks {σ : Type} (T : Tracker World Mark σ) (I : World → Prop)
    (Q : σ → Except ε α → Prop) : σ → Thread World Mark ε α → Prop
  | s, done r => Q s r
  | s, atom mark effect next => ∀ w, I w →
      I (effect w) ∧ T.law s mark w (effect w) ∧
        (next w).Tracks T I Q (T.learn s mark (effect w))

section Tracks

variable {σ : Type} {T : Tracker World Mark σ} {I : World → Prop} {s : σ}
  {Q : σ → Except ε α → Prop} {R : σ → Except ε β → Prop}

theorem tracks_mono {Q' : σ → Except ε α → Prop} {t : Thread World Mark ε α}
    (h : t.Tracks T I Q s) (hQ : ∀ s r, Q s r → Q' s r) : t.Tracks T I Q' s := by
  induction t generalizing s with
  | done r => exact hQ s r h
  | atom mark effect next ih => exact fun w hw => ⟨(h w hw).1, (h w hw).2.1, ih w (h w hw).2.2⟩

theorem tracks_bind {t : Thread World Mark ε α} {f : α → Thread World Mark ε β}
    (h : t.Tracks T I Q s) (hok : ∀ s a, Q s (.ok a) → (f a).Tracks T I R s)
    (herror : ∀ s e, Q s (.error e) → R s (.error e)) : (t >>= f).Tracks T I R s := by
  induction t generalizing s with
  | done r =>
    cases r with
    | ok a => exact hok s a h
    | error e => exact herror s e h
  | atom mark effect next ih => exact fun w hw => ⟨(h w hw).1, (h w hw).2.1, ih w (h w hw).2.2⟩

theorem tracks_handle {Q' : σ → Except ε α → Prop} {t : Thread World Mark ε α}
    {f : ε → Thread World Mark ε α} (h : t.Tracks T I Q s)
    (hok : ∀ s a, Q s (.ok a) → Q' s (.ok a))
    (herror : ∀ s e, Q s (.error e) → (f e).Tracks T I Q' s) : (t.handle f).Tracks T I Q' s := by
  induction t generalizing s with
  | done r =>
    cases r with
    | ok a => exact hok s a h
    | error e => exact herror s e h
  | atom mark effect next ih => exact fun w hw => ⟨(h w hw).1, (h w hw).2.1, ih w (h w hw).2.2⟩

theorem tracks_atomic {mark : Option Mark} {f : World → Except ε α × World}
    (h : ∀ w, I w → I (f w).2 ∧ T.law s mark w (f w).2 ∧ Q (T.learn s mark (f w).2) (f w).1) :
    (atomic mark f).Tracks T I Q s := h

/-- What is kept is kept while the thread is tracked. -/
theorem Tracks.and_keeps {t : Thread World Mark ε α} {K : Except ε α → Prop}
    (h : t.Tracks T I Q s) (hk : t.Keeps I K) : t.Tracks T I (fun s r => Q s r ∧ K r) s := by
  induction t generalizing s with
  | done r => exact ⟨h, hk⟩
  | atom mark effect next ih =>
    exact fun w hw => ⟨(h w hw).1, (h w hw).2.1, ih w (h w hw).2.2 (hk w hw).2⟩

end Tracks

end Thread

/-! ## Pools -/

/-- Threads that share a world. -/
structure Pool (World Mark ε α : Type) where
  world : World
  threads : ℕ → Thread World Mark ε α

namespace Pool

variable (p : Pool World Mark ε α) (i : ℕ)

/-- The mark of the next section of a thread. -/
def mark : Option Mark :=
  match p.threads i with
  | .done _ => none
  | .atom mark _ _ => mark

/-- The next section of a thread runs; nothing happens when the thread has ended. -/
def step : Pool World Mark ε α :=
  match p.threads i with
  | .done _ => p
  | .atom _ effect next =>
    { world := effect p.world, threads := Function.update p.threads i (next p.world) }

variable {p} {σ : Type} {T : Thread.Tracker World Mark σ} {I : World → Prop}
  {Q : σ → Except ε α → Prop} {known : ℕ → σ}

/-- Every thread is tracked with what it knows. -/
structure Tracked (T : Thread.Tracker World Mark σ) (I : World → Prop)
    (Q : σ → Except ε α → Prop) (p : Pool World Mark ε α) (known : ℕ → σ) : Prop where
  world : I p.world
  threads : ∀ i, (p.threads i).Tracks T I Q (known i)

/-- **Every step of a pool obeys the law** of the thread that takes it. -/
theorem Tracked.step (h : Tracked T I Q p known) (i : ℕ) :
    (p.mark i = none ∧ p.step i = p) ∨
    T.law (known i) (p.mark i) p.world (p.step i).world ∧
      Tracked T I Q (p.step i)
        (Function.update known i (T.learn (known i) (p.mark i) (p.step i).world)) := by
  cases hthread : p.threads i with
  | done r =>
    left
    unfold Pool.mark Pool.step
    rw [hthread]
    exact ⟨rfl, rfl⟩
  | atom mark effect next =>
    right
    have htracks := h.threads i
    rw [hthread] at htracks
    obtain ⟨hI, hlaw, hnext⟩ := htracks p.world h.world
    have hmark : p.mark i = mark := by
      unfold Pool.mark
      rw [hthread]
    have hstep : p.step i = ⟨effect p.world, Function.update p.threads i (next p.world)⟩ := by
      unfold Pool.step
      rw [hthread]
    rw [hmark, hstep]
    refine ⟨hlaw, hI, fun j => ?_⟩
    show Thread.Tracks T I Q _ (Function.update p.threads i (next p.world) j)
    by_cases hj : j = i
    · subst hj
      rw [Function.update_self, Function.update_self]
      exact hnext
    · rw [Function.update_of_ne hj, Function.update_of_ne hj]
      exact h.threads j

end Pool

end Threads

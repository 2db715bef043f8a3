/-
# Monitored interleavings

A run of interleaved calls is a list of moves: which call goes on, and what goes wrong.
A monitor watches each call with a state of its own, that says which statements the call
issues next, and a ledger watches all calls.  What a run keeps is proved from what one
move of a watched call can do.
-/
import ControlPlane.Interleaving

namespace Transaction

variable {Key Row ε α G H : Type}

/-! ## Moves -/

/-- What goes wrong with a statement: it fails without effect, it breaks the connection, or it
is a commit whose success is not reported. -/
inductive Fault (ε : Type) where
  | fails (e : ε)
  | drops (e : ε)
  | loses (e : ε)

/-- A call goes on. -/
structure Move (ε : Type) where
  call : ℕ
  fault : Option (Fault ε) := none

/-- What a move shows. -/
inductive Event (Row ε : Type) where
  | idle
  /-- an `UPDATE` fixes its targets -/
  | starts (c : Change Row)
  /-- an `UPDATE` visits a cell -/
  | visits (i : ℕ)
  /-- a statement is answered; `durable` when it is a commit that takes effect -/
  | answers (s : Stmt Row) (r : Except ε (Reply Row)) (durable : Bool)

/-- The statement is a commit that takes effect. -/
def Stmt.settles : Stmt Row → Option (Fault ε) → Bool
  | .commit, none => true
  | .commit, some (.loses _) => true
  | _, _ => false

section Moves

variable [DecidableEq Key] (sch : Schema Key Row ε)

/-- The answer to a statement of the call `n`, an `UPDATE` that succeeds excepted. -/
def Stmt.answer (n : ℕ) (cells : List (Cell Key Row)) (s : Stmt Row)
    (fault : Option (Fault ε)) : Except ε (Reply Row) × List (Cell Key Row) :=
  match fault with
  | some (.fails e) => (.error e, cells)
  | some (.drops e) => (.error e, cells.map (Cell.rollback n))
  | some (.loses e) =>
    match s with
    | .commit => (.error e, cells.map (Cell.commit n))
    | _ => (.error e, cells)
  | none =>
    match s with
    | .select => (.ok { rows := visibleRows n cells }, cells)
    | .step => (.ok {}, cells)
    | .commit => (.ok {}, cells.map (Cell.commit n))
    | .rollback => (.ok {}, cells.map (Cell.rollback n))
    | .insert row =>
      if (∀ cell ∈ cells, cell.key ≠ sch.key row) ∧
          sch.refers (visibleRows n cells) row = true then
        (.ok { count := 1 }, cells ++
          [{ key := sch.key row, committed := [], pending := [⟨some n, some row⟩] }])
      else (.error sch.violation, cells)
    | .change _ => (.error sch.violation, cells)

/-- The call of a move gets the answer to its statement. -/
def State.answer (m : Move ε) (s : Stmt Row) (k : Except ε (Reply Row) → Prog Row ε α)
    (σ : State Key Row ε α) : Event Row ε × State Key Row ε α :=
  let a := s.answer sch m.call σ.cells m.fault
  (.answers s a.1 (s.settles m.fault),
    ⟨a.2, Function.update σ.calls m.call ⟨k a.1, none⟩⟩)

/-- The next step of an `UPDATE`; it waits for a lock that another call holds. -/
def State.update (n : ℕ) (c : Change Row) (k : Except ε (Reply Row) → Prog Row ε α)
    (scan : Option (List ℕ × ℕ)) (σ : State Key Row ε α) : Event Row ε × State Key Row ε α :=
  match scan with
  | none => (.starts c, ⟨σ.cells, Function.update σ.calls n
      ⟨.exec (.change c) k, some (targets n c σ.cells, 0)⟩⟩)
  | some ([], count) => (.answers (.change c) (.ok { count := count }) false,
      ⟨σ.cells, Function.update σ.calls n ⟨k (.ok { count := count }), none⟩⟩)
  | some (i :: rest, count) =>
    match σ.cells[i]? with
    | none => (.idle, σ)
    | some cell =>
      if cell.FreeFor n then
        (.visits i, ⟨σ.cells.set i (cell.visit n c), Function.update σ.calls n
          ⟨.exec (.change c) k, some (rest, if cell.Matches c then count + 1 else count)⟩⟩)
      else (.idle, σ)

/-- A move, with what it shows. -/
def State.move (m : Move ε) (σ : State Key Row ε α) : Event Row ε × State Key Row ε α :=
  match σ.calls m.call with
  | ⟨.done _, _⟩ => (.idle, σ)
  | ⟨.exec (.change c) k, scan⟩ =>
    match m.fault with
    | none => σ.update m.call c k scan
    | some _ => σ.answer sch m (.change c) k
  | ⟨.exec s k, _⟩ => σ.answer sch m s k

/-- **What a move can do.** -/
inductive Moved (m : Move ε) (σ : State Key Row ε α) : Event Row ε → State Key Row ε α → Prop
  | idle : Moved m σ .idle σ
  | starts (c : Change Row) (k : Except ε (Reply Row) → Prog Row ε α) :
      σ.calls m.call = ⟨.exec (.change c) k, none⟩ →
      Moved m σ (.starts c) ⟨σ.cells, Function.update σ.calls m.call
        ⟨.exec (.change c) k, some (targets m.call c σ.cells, 0)⟩⟩
  | visits (c : Change Row) (k : Except ε (Reply Row) → Prog Row ε α) (i : ℕ) (rest : List ℕ)
      (count : ℕ) (cell : Cell Key Row) :
      σ.calls m.call = ⟨.exec (.change c) k, some (i :: rest, count)⟩ →
      σ.cells[i]? = some cell → cell.FreeFor m.call →
      Moved m σ (.visits i) ⟨σ.cells.set i (cell.visit m.call c), Function.update σ.calls m.call
        ⟨.exec (.change c) k, some (rest, if cell.Matches c then count + 1 else count)⟩⟩
  | finishes (c : Change Row) (k : Except ε (Reply Row) → Prog Row ε α) (count : ℕ) :
      σ.calls m.call = ⟨.exec (.change c) k, some ([], count)⟩ →
      Moved m σ (.answers (.change c) (.ok { count := count }) false)
        ⟨σ.cells, Function.update σ.calls m.call ⟨k (.ok { count := count }), none⟩⟩
  | answers (s : Stmt Row) (k : Except ε (Reply Row) → Prog Row ε α)
      (scan : Option (List ℕ × ℕ)) (r : Except ε (Reply Row)) (cells : List (Cell Key Row)) :
      σ.calls m.call = ⟨.exec s k, scan⟩ → (m.fault = none → ∀ c, s ≠ .change c) →
      s.answer sch m.call σ.cells m.fault = (r, cells) →
      Moved m σ (.answers s r (s.settles m.fault))
        ⟨cells, Function.update σ.calls m.call ⟨k r, none⟩⟩

variable {sch}

variable (sch) in
theorem State.moved (m : Move ε) (σ : State Key Row ε α) :
    Moved sch m σ (σ.move sch m).1 (σ.move sch m).2 := by
  unfold State.move
  split
  · exact .idle
  · rename_i c k scan hcall
    cases hfault : m.fault with
    | some f =>
      exact .answers _ k _ _ _ hcall (fun h => nomatch hfault.symm.trans h) rfl
    | none =>
      dsimp only
      unfold State.update
      cases scan with
      | none => exact .starts c k hcall
      | some scan =>
        obtain ⟨rest, count⟩ := scan
        cases rest with
        | nil => exact .finishes c k count hcall
        | cons i rest =>
          dsimp only
          cases hcell : σ.cells[i]? with
          | none => exact .idle
          | some cell =>
            dsimp only
            split
            · exact .visits c k i rest count cell hcall hcell (by assumption)
            · exact .idle
  · rename_i s k scan hne hcall
    exact .answers s k scan _ _ hcall (fun _ c hs => hne c hs) rfl

/-! ### Moves and steps -/

theorem answers_of_answer {n : ℕ} {cells cells' : List (Cell Key Row)} {s : Stmt Row}
    {fault : Option (Fault ε)} {r : Except ε (Reply Row)}
    (hchange : fault = none → ∀ c, s ≠ .change c)
    (h : s.answer sch n cells fault = (r, cells')) : Answers sch n cells s r cells' := by
  unfold Stmt.answer at h
  cases fault with
  | some f =>
    cases f with
    | fails e =>
      cases h
      exact .fails s e
    | drops e =>
      cases h
      exact .disconnects s e
    | loses e =>
      cases s with
      | commit =>
        cases h
        exact .lostReply e
      | select => cases h; exact .fails _ e
      | change c => cases h; exact .fails _ e
      | insert row => cases h; exact .fails _ e
      | rollback => cases h; exact .fails _ e
      | step => cases h; exact .fails _ e
  | none =>
    cases s with
    | select => cases h; exact .select
    | step => cases h; exact .step
    | commit => cases h; exact .commit
    | rollback => cases h; exact .rollback
    | change c => exact absurd rfl (hchange rfl c)
    | insert row =>
      dsimp only at h
      split at h
      · rename_i hadmits
        cases h
        exact .insert row hadmits.1 hadmits.2
      · cases h
        exact .fails _ _

/-- A move is a step, or nothing. -/
theorem Moved.reaches {m : Move ε} {σ σ' : State Key Row ε α} {ev : Event Row ε}
    (h : Moved sch m σ ev σ') : Relation.ReflTransGen (Step sch) σ σ' := by
  cases h with
  | idle => exact .refl
  | starts c k hcall => exact .single (.start m.call c k hcall)
  | visits c k i rest count cell hcall hcell hfree =>
    exact .single (.visit m.call c k i rest count cell hcall hcell hfree)
  | finishes c k count hcall => exact .single (.finish m.call c k count hcall)
  | answers s k scan r cells hcall hchange hanswer =>
    exact .single (.answer m.call s k scan r cells hcall (answers_of_answer hchange hanswer))

/-- What a move does to the cells. -/
theorem Moved.evolves {m : Move ε} {σ σ' : State Key Row ε α} {ev : Event Row ε}
    (h : Moved sch m σ ev σ') : Evolves sch m.call (fun _ => True) σ.cells σ'.cells := by
  cases h with
  | idle => exact .refl
  | starts => exact .refl
  | visits c k i rest count cell hcall hcell hfree => exact .set hcell (.visit trivial hfree)
  | finishes => exact .refl
  | answers s k scan r cells hcall hchange hanswer =>
    exact (answers_of_answer hchange hanswer).evolves trivial

/-- The call of a move is the only one that goes on. -/
theorem Moved.calls_of_ne {m : Move ε} {σ σ' : State Key Row ε α} {ev : Event Row ε}
    (h : Moved sch m σ ev σ') {j : ℕ} (hj : j ≠ m.call) : σ'.calls j = σ.calls j := by
  cases h with
  | idle => rfl
  | starts => exact Function.update_of_ne hj _ _
  | visits => exact Function.update_of_ne hj _ _
  | finishes => exact Function.update_of_ne hj _ _
  | answers => exact Function.update_of_ne hj _ _

end Moves

/-! ## Monitors -/

/-- A monitor of a call: the statements that the call may issue next, and the state after a
statement that succeeds (with the rows it has read) or fails.  An `UPDATE` counts from its
start. -/
structure Monitor (Row G : Type) where
  allows : G → Stmt Row → Prop
  next : G → Stmt Row → List Row → G
  failed : G → G

/-- The state after a statement that fails, before or after it counts. -/
def Monitor.Breaks (M : Monitor Row G) (g : G) (s : Stmt Row) (g' : G) : Prop :=
  g' = M.failed g ∨ g' = M.failed (M.next g s [])

/-- The state of a monitor after a move. -/
def Monitor.after (M : Monitor Row G) (g : G) : Event Row ε → G
  | .idle => g
  | .starts c => M.next g (.change c) []
  | .visits _ => g
  | .answers (.change _) (.ok _) _ => g
  | .answers s (.ok reply) _ => M.next g s reply.rows
  | .answers _ (.error _) _ => M.failed g

namespace Prog

/-- Whatever a program is answered, it issues what the monitor allows, and ends in a state and
with a result that satisfy `Q`. -/
def Obeys (M : Monitor Row G) (Q : G → Except ε α → Prop) : G → Prog Row ε α → Prop
  | g, done r => Q g r
  | g, exec s k => M.allows g s ∧
      (∀ reply, (k (.ok reply)).Obeys M Q (M.next g s reply.rows)) ∧
      ∀ e g', M.Breaks g s g' → (k (.error e)).Obeys M Q g'

variable {M : Monitor Row G} {g : G} {β : Type} {Q : G → Except ε α → Prop}

theorem obeys_mono {Q' : G → Except ε α → Prop} {p : Prog Row ε α} (h : p.Obeys M Q g)
    (hQ : ∀ g r, Q g r → Q' g r) : p.Obeys M Q' g := by
  induction p generalizing g with
  | done r => exact hQ g r h
  | exec s k ih => exact ⟨h.1, fun reply => ih _ (h.2.1 reply), fun e g' hg => ih _ (h.2.2 e g' hg)⟩

theorem obeys_bind {R : G → Except ε β → Prop} {p : Prog Row ε α} {f : α → Prog Row ε β}
    (h : p.Obeys M Q g) (hok : ∀ g a, Q g (.ok a) → (f a).Obeys M R g)
    (herror : ∀ g e, Q g (.error e) → R g (.error e)) : (p >>= f).Obeys M R g := by
  induction p generalizing g with
  | done r =>
    cases r with
    | ok a => exact hok g a h
    | error e => exact herror g e h
  | exec s k ih => exact ⟨h.1, fun reply => ih _ (h.2.1 reply), fun e g' hg => ih _ (h.2.2 e g' hg)⟩

theorem obeys_handle {Q' : G → Except ε α → Prop} {p : Prog Row ε α} {f : ε → Prog Row ε α}
    (h : p.Obeys M Q g) (hok : ∀ g a, Q g (.ok a) → Q' g (.ok a))
    (herror : ∀ g e, Q g (.error e) → (f e).Obeys M Q' g) : (p.handle f).Obeys M Q' g := by
  induction p generalizing g with
  | done r =>
    cases r with
    | ok a => exact hok g a h
    | error e => exact herror g e h
  | exec s k ih => exact ⟨h.1, fun reply => ih _ (h.2.1 reply), fun e g' hg => ih _ (h.2.2 e g' hg)⟩

/-- What is allowed in every state is issued. -/
theorem Obeys.issues {P : Stmt Row → Prop} {p : Prog Row ε α} (h : p.Obeys M Q g)
    (hP : ∀ g s, M.allows g s → P s) : p.Issues P := by
  induction p generalizing g with
  | done r => trivial
  | exec s k ih =>
    refine ⟨hP g s h.1, fun r => ?_⟩
    cases r with
    | ok reply => exact ih _ (h.2.1 reply)
    | error e => exact ih _ (h.2.2 e _ (.inl rfl))

end Prog

/-- The `UPDATE` that a call is about, with the cells it still has to visit. -/
def Progress.underway (q : Progress Row ε α) : Option (Change Row × List ℕ) :=
  match q.scan with
  | none => none
  | some (rest, _) =>
    match q.prog with
    | .exec (.change c) _ => some (c, rest)
    | _ => none

/-- A call that has come some way obeys its monitor. -/
def Progress.Obeys (M : Monitor Row G) (g : G) (q : Progress Row ε α) : Prop :=
  match q with
  | ⟨p, none⟩ => p.Obeys M (fun _ _ => True) g
  | ⟨.exec (.change c) k, some _⟩ =>
    (∃ g₀, M.allows g₀ (.change c) ∧ g = M.next g₀ (.change c) []) ∧
      (∀ count, (k (.ok { count := count })).Obeys M (fun _ _ => True) g) ∧
      ∀ e, (k (.error e)).Obeys M (fun _ _ => True) (M.failed g)
  | _ => False

section Turns

variable [DecidableEq Key] {sch : Schema Key Row ε} {M : Monitor Row G} {n : ℕ}
  {cells : List (Cell Key Row)} {g : G}

variable (sch M n cells) in
/-- **What the turn of a monitored call can be**: what it shows, and what it makes of the cells
and of the `UPDATE` under way. -/
inductive Turn (scan : Option (Change Row × List ℕ)) (g : G) :
    Event Row ε → List (Cell Key Row) → Option (Change Row × List ℕ) → Prop
  | idle : Turn scan g .idle cells scan
  | starts (c : Change Row) : scan = none → M.allows g (.change c) →
      Turn scan g (.starts c) cells (some (c, targets n c cells))
  | visits (c : Change Row) (i : ℕ) (rest : List ℕ) (cell : Cell Key Row) (g₀ : G) :
      scan = some (c, i :: rest) → M.allows g₀ (.change c) → g = M.next g₀ (.change c) [] →
      cells[i]? = some cell → cell.FreeFor n →
      Turn scan g (.visits i) (cells.set i (cell.visit n c)) (some (c, rest))
  | finishes (c : Change Row) (count : ℕ) : scan = some (c, []) →
      Turn scan g (.answers (.change c) (.ok { count := count }) false) cells none
  | replies (s : Stmt Row) (reply : Reply Row) (cells' : List (Cell Key Row)) : scan = none →
      M.allows g s → (∀ c, s ≠ .change c) →
      s.answer sch n cells none = (.ok reply, cells') →
      Turn scan g (.answers s (.ok reply) (s.settles (none : Option (Fault ε)))) cells' none
  | fails (s : Stmt Row) (e : ε) : Turn scan g (.answers s (.error e) false) cells none
  | drops (s : Stmt Row) (e : ε) :
      Turn scan g (.answers s (.error e) false) (cells.map (Cell.rollback n)) none
  | loses (e : ε) : scan = none → M.allows g .commit →
      Turn scan g (.answers .commit (.error e) true) (cells.map (Cell.commit n)) none

/-- An answer without a reply is a failure of one of three kinds. -/
theorem turn_of_error {scan : Option (Change Row × List ℕ)} {s : Stmt Row}
    {fault : Option (Fault ε)} {e : ε} {cells' : List (Cell Key Row)}
    (hallows : s = .commit → scan = none ∧ M.allows g .commit)
    (h : s.answer sch n cells fault = (.error e, cells')) :
    Turn sch M n cells scan g (.answers s (.error e) (s.settles fault)) cells' none := by
  unfold Stmt.answer at h
  cases fault with
  | some f =>
    cases f with
    | fails e' =>
      cases h
      cases s <;> exact .fails _ e
    | drops e' =>
      cases h
      cases s <;> exact .drops _ e
    | loses e' =>
      cases s with
      | commit =>
        cases h
        exact .loses e (hallows rfl).1 (hallows rfl).2
      | select => cases h; exact .fails _ e
      | change c => cases h; exact .fails _ e
      | insert row => cases h; exact .fails _ e
      | rollback => cases h; exact .fails _ e
      | step => cases h; exact .fails _ e
  | none =>
    cases s with
    | select => exact nomatch h
    | step => exact nomatch h
    | commit => exact nomatch h
    | rollback => exact nomatch h
    | change c => cases h; exact .fails _ _
    | insert row =>
      dsimp only at h
      split at h
      · exact nomatch h
      · cases h
        exact .fails _ _

/-- The call of a move takes a turn, and goes on to obey its monitor. -/
theorem Moved.turn {m : Move ε} {σ σ' : State Key Row ε α} {ev : Event Row ε}
    (h : Moved sch m σ ev σ') (hobeys : (σ.calls m.call).Obeys M g) :
    Turn sch M m.call σ.cells (σ.calls m.call).underway g ev σ'.cells
        (σ'.calls m.call).underway ∧
      (σ'.calls m.call).Obeys M (M.after g ev) := by
  cases h with
  | idle => exact ⟨.idle, hobeys⟩
  | starts c k hcall =>
    rw [hcall] at hobeys ⊢
    dsimp only
    rw [Function.update_self]
    exact ⟨.starts c rfl hobeys.1, ⟨g, hobeys.1, rfl⟩,
      fun count => hobeys.2.1 { count := count }, fun e => hobeys.2.2 e _ (.inr rfl)⟩
  | visits c k i rest count cell hcall hcell hfree =>
    rw [hcall] at hobeys ⊢
    dsimp only
    rw [Function.update_self]
    obtain ⟨⟨g₀, hallows, hg⟩, hok, herror⟩ := hobeys
    exact ⟨.visits c i rest cell g₀ rfl hallows hg hcell hfree, ⟨g₀, hallows, hg⟩, hok, herror⟩
  | finishes c k count hcall =>
    rw [hcall] at hobeys ⊢
    dsimp only
    rw [Function.update_self]
    exact ⟨.finishes c count rfl, hobeys.2.1 count⟩
  | answers s k scan r cells hcall hchange hanswer =>
    rw [hcall] at hobeys ⊢
    dsimp only
    rw [Function.update_self]
    cases scan with
    | none =>
      cases r with
      | ok reply =>
        cases hfault : m.fault with
        | none =>
          rw [hfault] at hanswer hchange
          have hne := hchange rfl
          refine ⟨.replies s reply cells ?_ hobeys.1 hne hanswer, ?_⟩
          · cases s with
            | change c => exact absurd rfl (hne c)
            | _ => rfl
          · cases s with
            | change c => exact absurd rfl (hne c)
            | _ => exact hobeys.2.1 reply
        | some f =>
          rw [hfault] at hanswer
          cases f with
          | loses e => cases s <;> exact nomatch hanswer
          | _ => exact nomatch hanswer
      | error e =>
        refine ⟨turn_of_error (fun hs => ?_) hanswer, ?_⟩
        · subst hs
          exact ⟨rfl, hobeys.1⟩
        · cases s <;> exact hobeys.2.2 e _ (.inl rfl)
    | some scan =>
      cases s with
      | change c =>
        cases r with
        | ok reply =>
          cases hfault : m.fault with
          | none => exact absurd rfl (hchange hfault c)
          | some f =>
            rw [hfault] at hanswer
            cases f <;> exact nomatch hanswer
        | error e => exact ⟨turn_of_error (fun hs => nomatch hs) hanswer, hobeys.2.2 e⟩
      | _ => exact hobeys.elim

end Turns

/-! ## Watched runs -/

/-- A monitor for each call, and how a ledger is kept of what they do; `g` is the state of the
call's monitor before the move. -/
structure Watch (Row ε G H : Type) where
  monitor : ℕ → Monitor Row G
  note : H → ℕ → G → Event Row ε → H

/-- A state of the system with its monitors and the ledger. -/
structure Watched (Key Row ε α G H : Type) where
  state : State Key Row ε α
  ghosts : ℕ → G
  ledger : H

namespace Watched

variable [DecidableEq Key] (sch : Schema Key Row ε) (W : Watch Row ε G H)

/-- A move of a watched system. -/
def move (x : Watched Key Row ε α G H) (m : Move ε) : Watched Key Row ε α G H where
  state := (x.state.move sch m).2
  ghosts := Function.update x.ghosts m.call
    ((W.monitor m.call).after (x.ghosts m.call) (x.state.move sch m).1)
  ledger := W.note x.ledger m.call (x.ghosts m.call) (x.state.move sch m).1

/-- The moves of a list, in turn. -/
def run (x : Watched Key Row ε α G H) (moves : List (Move ε)) : Watched Key Row ε α G H :=
  moves.foldl (move sch W) x

/-- Every move of the list meets the condition when it is made. -/
def Meets (C : Watched Key Row ε α G H → Move ε → Prop) :
    Watched Key Row ε α G H → List (Move ε) → Prop
  | _, [] => True
  | x, m :: moves => C x m ∧ Meets C (x.move sch W m) moves

instance decidableMeets {C : Watched Key Row ε α G H → Move ε → Prop}
    [∀ x m, Decidable (C x m)] :
    (x : Watched Key Row ε α G H) → (moves : List (Move ε)) → Decidable (x.Meets sch W C moves)
  | _, [] => isTrue trivial
  | x, m :: moves =>
    have : Decidable ((x.move sch W m).Meets sch W C moves) := decidableMeets _ moves
    inferInstanceAs (Decidable (C x m ∧ (x.move sch W m).Meets sch W C moves))

/-- The system with nothing done. -/
def start (rows : List Row) (code : ℕ → Prog Row ε α) (ghosts : ℕ → G) (ledger : H) :
    Watched Key Row ε α G H where
  state := State.init sch rows code
  ghosts := ghosts
  ledger := ledger

variable {sch W} {x : Watched Key Row ε α G H}

/-- Every call obeys its monitor. -/
def Obeying (W : Watch Row ε G H) (x : Watched Key Row ε α G H) : Prop :=
  ∀ n, (x.state.calls n).Obeys (W.monitor n) (x.ghosts n)

theorem Obeying.turn (h : x.Obeying W) (m : Move ε) :
    Turn sch (W.monitor m.call) m.call x.state.cells (x.state.calls m.call).underway
      (x.ghosts m.call) (x.state.move sch m).1 (x.move sch W m).state.cells
      ((x.move sch W m).state.calls m.call).underway :=
  ((x.state.moved sch m).turn (h m.call)).1

theorem calls_move_of_ne (x : Watched Key Row ε α G H) {m : Move ε} {j : ℕ} (hj : j ≠ m.call) :
    (x.move sch W m).state.calls j = x.state.calls j :=
  (x.state.moved sch m).calls_of_ne hj

theorem ghosts_move_of_ne (x : Watched Key Row ε α G H) {m : Move ε} {j : ℕ} (hj : j ≠ m.call) :
    (x.move sch W m).ghosts j = x.ghosts j := Function.update_of_ne hj _ _

theorem ghosts_move_self (x : Watched Key Row ε α G H) (m : Move ε) :
    (x.move sch W m).ghosts m.call
      = (W.monitor m.call).after (x.ghosts m.call) (x.state.move sch m).1 :=
  Function.update_self _ _ _

theorem Obeying.move (h : x.Obeying W) (m : Move ε) : (x.move sch W m).Obeying W := by
  intro n
  by_cases hn : n = m.call
  · subst hn
    rw [ghosts_move_self]
    exact ((x.state.moved sch m).turn (h m.call)).2
  · rw [calls_move_of_ne x hn, ghosts_move_of_ne x hn]
    exact h n

/-- **Run rule**: what every move that meets the condition keeps holds after every run whose
moves meet it. -/
theorem run_keeps {C : Watched Key Row ε α G H → Move ε → Prop}
    {I : Watched Key Row ε α G H → Prop}
    (hstep : ∀ x m, I x → C x m → I (x.move sch W m)) {moves : List (Move ε)}
    (hx : I x) (hmeets : x.Meets sch W C moves) : I (x.run sch W moves) := by
  induction moves generalizing x with
  | nil => exact hx
  | cons m moves ih => exact ih (hstep x m hx hmeets.1) hmeets.2

end Watched

end Transaction

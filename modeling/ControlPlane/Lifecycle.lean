/-
# Stages and stale reads

Rows that go through stages, and calls that read the stage of a row, decide for a while, and
write the next one by an `UPDATE` that does not ask for the stage again.  Any number of such
calls interleave at READ COMMITTED.

Nobody skips a stage: whatever is written follows some stage that the row has had before.  And
as long as each write finds the stage that its call knows, the row goes from stage to stage.
-/
import ControlPlane.Moves
import Mathlib.Data.List.Chain

namespace Transaction

variable {Key Row ε α Id S : Type}

/-! ## Subjects -/

/-- Rows that go through stages: what a row is the subject of and its stage, the key of a
subject, some row for each, and the stages that one write leads to. -/
structure Lifecycle (Key Row Id S : Type) where
  subject : Row → Option (Id × S)
  key : Id → Key
  probe : Id → S → Row
  subject_probe : ∀ id s, subject (probe id s) = some (id, s)
  steps : S → S → Prop

/-- What a call knows: the stage that it has read, the one that it has read or written last, and
the one that it is writing. -/
inductive Belief (S : Type) where
  | unread
  | knows (read last : S)
  | moves (read last target : S)
  deriving DecidableEq

namespace Belief

/-- The stage that the call has read. -/
def read : Belief S → Option S
  | unread => none
  | knows read _ => some read
  | moves read _ _ => some read

/-- The stage that the call takes the row from. -/
def leaves : Belief S → Option S
  | moves _ last _ => some last
  | _ => none

end Belief

namespace Lifecycle

variable (L : Lifecycle Key Row Id S)

/-- The rows with the key of a subject are those that are about it. -/
def Keyed (sch : Schema Key Row ε) : Prop :=
  ∀ row id, sch.key row = L.key id ↔ ∃ s, L.subject row = some (id, s)

/-- The change leaves the subjects alone, and keeps the keys. -/
def Mild (sch : Schema Key Row ε) (c : Change Row) : Prop :=
  ∀ row, c.guard row = true → L.subject row = none ∧
    ∀ row', c.set row = some row' → L.subject row' = none ∧ sch.key row' = sch.key row

/-- The change takes one subject to a stage, whatever its stage is. -/
structure Moves (c : Change Row) (id : Id) (target : S) : Prop where
  guard : ∀ row, c.guard row = true ↔ ∃ s, L.subject row = some (id, s)
  set : ∀ row s, L.subject row = some (id, s) →
    ∃ row', c.set row = some row' ∧ L.subject row' = some (id, target)

/-- The stage that a change takes a subject to. -/
def target (c : Change Row) (id : Id) (s : S) : Option S :=
  if c.guard (L.probe id s) then ((c.set (L.probe id s)).bind L.subject).map Prod.snd else none

/-- The stage of a subject among some rows. -/
def stageIn [DecidableEq Id] (id : Id) (rows : List Row) : Option S :=
  rows.findSome? (fun row => (L.subject row).bind
    (fun subject => if subject.1 = id then some subject.2 else none))

/-- The stages of some versions of a row. -/
def stages (l : List (Version Row)) : List S :=
  l.filterMap (fun v => (v.row.bind L.subject).map Prod.snd)

/-- The first stage is a starting one, and each other one follows one that the row has had
before, newest first. -/
def Grounded (start : S → Prop) : List S → Prop
  | [] => True
  | s :: older => ((older = [] ∧ start s) ∨ ∃ r ∈ older, L.steps r s) ∧ Grounded start older

/-- Each stage but the first one follows the one before it, newest first. -/
def Linear (l : List S) : Prop := l.IsChain (fun newer older => L.steps older newer)

section Subjects

variable {L} {sch : Schema Key Row ε} {c : Change Row} {id : Id} {s t : S} {start : S → Prop}

theorem target_of_moves (h : L.Moves c id t) : L.target c id s = some t := by
  obtain ⟨row', hset, hsubject⟩ := h.set _ s (L.subject_probe id s)
  unfold target
  rw [if_pos ((h.guard _).mpr ⟨s, L.subject_probe id s⟩), hset, Option.bind_some, hsubject]
  rfl

theorem target_of_mild (h : L.Mild sch c) : L.target c id s = none := by
  unfold target
  split
  · rename_i hguard
    have hnone := (h _ hguard).1
    rw [L.subject_probe] at hnone
    cases hnone
  · rfl

theorem stageIn_some [DecidableEq Id] {rows : List Row} (h : L.stageIn id rows = some s) :
    ∃ row ∈ rows, L.subject row = some (id, s) := by
  obtain ⟨row, hrow, hstage⟩ := List.exists_of_findSome?_eq_some h
  refine ⟨row, hrow, ?_⟩
  cases hsubject : L.subject row with
  | none =>
    rw [hsubject] at hstage
    cases hstage
  | some subject =>
    obtain ⟨id', s'⟩ := subject
    rw [hsubject, Option.bind_some] at hstage
    split at hstage
    · rename_i hid
      have hs : s' = s := Option.some.inj hstage
      have hid' : id' = id := hid
      rw [hid', hs]
    · cases hstage

theorem stages_cons_some {v : Version Row} {l : List (Version Row)} {row : Row}
    (hrow : v.row = some row) (h : L.subject row = some (id, s)) :
    L.stages (v :: l) = s :: L.stages l := by
  unfold stages
  rw [List.filterMap_cons, hrow, Option.bind_some, h]
  rfl

theorem stages_cons_none {v : Version Row} {l : List (Version Row)}
    (h : v.row.bind L.subject = none) : L.stages (v :: l) = L.stages l := by
  unfold stages
  rw [List.filterMap_cons, h]
  rfl

theorem stages_suffix {l l' : List (Version Row)} (h : l <:+ l') : L.stages l <:+ L.stages l' := by
  obtain ⟨front, rfl⟩ := h
  refine ⟨L.stages front, ?_⟩
  unfold stages
  rw [List.filterMap_append]

/-- The newest stage, if the newest version has one. -/
theorem stages_of_newest {l : List (Version Row)} {row : Row} (hrow : newest l = some row)
    (h : L.subject row = some (id, s)) : ∃ older, L.stages l = s :: older := by
  cases l with
  | nil => cases hrow
  | cons v l => exact ⟨L.stages l, stages_cons_some hrow h⟩

/-- The stages of one version. -/
theorem stages_singleton (v : Version Row) : L.stages [v] = [] ∨ ∃ s, L.stages [v] = [s] := by
  cases hstage : (v.row.bind L.subject) with
  | none => exact Or.inl (stages_cons_none hstage)
  | some subject =>
    right
    refine ⟨subject.2, ?_⟩
    unfold stages
    rw [List.filterMap_cons, hstage]
    rfl

theorem Grounded.of_suffix {l l' : List S} (h : L.Grounded start l') (hs : l <:+ l') :
    L.Grounded start l := by
  induction l' with
  | nil =>
    rw [List.suffix_nil.mp hs]
    trivial
  | cons s older ih =>
    rcases List.suffix_cons_iff.mp hs with rfl | hs
    · exact h
    · exact ih h.2 hs

theorem Linear.of_suffix {l l' : List S} (h : L.Linear l') (hs : l <:+ l') : L.Linear l :=
  List.IsChain.suffix h hs

/-- **The way leads through the gate**: if the stages behind a gate follow only the gate and one
another, and no starting stage is behind it, then who is behind the gate has been at it. -/
theorem Grounded.passes {behind : S → Prop} {gate : S} {l : List S} (h : L.Grounded start l)
    (hstart : ∀ s, start s → ¬ behind s)
    (hsteps : ∀ r s, L.steps r s → behind s → r = gate ∨ behind r) (hs : s ∈ l)
    (hbehind : behind s) : gate ∈ l := by
  induction l generalizing s with
  | nil => cases hs
  | cons newest older ih =>
    rcases List.mem_cons.mp hs with rfl | hs
    · rcases h.1 with ⟨-, hfirst⟩ | ⟨r, hr, hstep⟩
      · exact absurd hbehind (hstart s hfirst)
      · rcases hsteps r s hstep hbehind with rfl | hr'
        · exact List.mem_cons_of_mem _ hr
        · exact List.mem_cons_of_mem _ (ih h.2 hr hr')
    · exact List.mem_cons_of_mem _ (ih h.2 hs hbehind)

/-- From an older stage to the newest one. -/
theorem Linear.path {l l' : List S} {older newer : S} (h : L.Linear (newer :: l'))
    (hs : older :: l <:+ newer :: l') : Relation.ReflTransGen L.steps older newer := by
  induction l' generalizing newer with
  | nil =>
    rcases List.suffix_cons_iff.mp hs with heq | hs
    · cases heq
      exact .refl
    · exact absurd (List.suffix_nil.mp hs) (List.cons_ne_nil _ _)
  | cons s l' ih =>
    rcases List.suffix_cons_iff.mp hs with heq | hs
    · cases heq
      exact .refl
    · obtain ⟨hstep, hrest⟩ := List.isChain_cons_cons.mp h
      exact (ih hrest hs).tail hstep

end Subjects

/-! ## Calls that read and write -/

variable [DecidableEq Id] (sch : Schema Key Row ε)

/-- A call moves the subject that it has read, only to stages that follow the one that it has
read and the one that it knows last.  It inserts no subjects. -/
def monitor (id : Id) : Monitor Row (Belief S) where
  allows
    | .knows read last, .change c => L.Mild sch c ∨
        ∃ target, L.Moves c id target ∧ L.steps read target ∧ L.steps last target
    | _, .change c => L.Mild sch c
    | _, .insert row => L.subject row = none
    | _, _ => True
  next
    | .unread, .select, rows => (L.stageIn id rows).elim .unread (fun s => .knows s s)
    | .knows read last, .change c, _ =>
      (L.target c id last).elim (.knows read last) (.moves read last)
    | .moves read _ target, _, _ => .knows read target
    | g, _, _ => g
  failed
    | .moves read last _ => .knows read last
    | g => g

/-- The calls are watched, each with its subject. -/
def watch (ids : ℕ → Id) : Watch Row ε (Belief S) Unit where
  monitor n := L.monitor sch (ids n)
  note _ _ _ _ := ()

variable {L sch}

/-- A program that touches no subject leaves its call with what it knows. -/
theorem obeys_of_issues {id : Id} {read last : S} {p : Prog Row ε α}
    (h : p.Issues (fun s => match s with
      | .change c => L.Mild sch c
      | .insert row => L.subject row = none
      | _ => True)) :
    p.Obeys (L.monitor sch id) (fun g _ => g = .knows read last) (.knows read last) := by
  induction p with
  | done r => rfl
  | exec s k ih =>
    have hnext : ∀ rows, (L.monitor sch id).next (.knows read last) s rows = .knows read last := by
      intro rows
      cases s with
      | change c =>
        show (L.target c id last).elim _ _ = _
        rw [target_of_mild h.1]
        rfl
      | _ => rfl
    have hbroken : ∀ g, (L.monitor sch id).Breaks (.knows read last) s g →
        g = .knows read last := by
      rintro g (hg | hg)
      · exact hg
      · rw [hnext] at hg
        exact hg
    refine ⟨?_, fun reply => ?_, fun e g hg => ?_⟩
    · cases s with
      | change c => exact Or.inl h.1
      | insert row => exact h.1
      | _ => trivial
    · rw [hnext]
      exact ih _ (h.2 _)
    · rw [hbroken g hg]
      exact ih _ (h.2 _)

end Lifecycle

/-! ## What a turn makes of one cell -/

section Cells

variable [DecidableEq Key] {sch : Schema Key Row ε} {n : ℕ}

/-- A cell after a turn of the call `n`. -/
inductive CellTurn (sch : Schema Key Row ε) (M : Monitor Row α) (n : ℕ)
    (cells : List (Cell Key Row)) (g : α) (ev : Event Row ε) : Cell Key Row → Prop
  | kept (cell : Cell Key Row) : cell ∈ cells → CellTurn sch M n cells g ev cell
  | commits (cell : Cell Key Row) : cell ∈ cells → CellTurn sch M n cells g ev (cell.commit n)
  | rollbacks (cell : Cell Key Row) : cell ∈ cells →
      CellTurn sch M n cells g ev (cell.rollback n)
  | writes (i : ℕ) (cell : Cell Key Row) (c : Change Row) (r : Row) (g₀ : α) :
      ev = .visits i → cells[i]? = some cell → M.allows g₀ (.change c) →
      g = M.next g₀ (.change c) [] → newest cell.trail = some r → c.guard r = true →
      CellTurn sch M n cells g ev (cell.write n c)
  | inserts (row : Row) : M.allows g (.insert row) →
      CellTurn sch M n cells g ev
        { key := sch.key row, committed := [], pending := [⟨some n, some row⟩] }

/-- **What a turn makes of one cell.** -/
theorem Turn.cell {M : Monitor Row α} {cells cells' : List (Cell Key Row)}
    {scan scan' : Option (Change Row × List ℕ)} {g : α} {ev : Event Row ε}
    (h : Turn sch M n cells scan g ev cells' scan') {cell : Cell Key Row} (hcell : cell ∈ cells') :
    CellTurn sch M n cells g ev cell := by
  cases h with
  | idle => exact .kept cell hcell
  | starts c => exact .kept cell hcell
  | visits c i rest visited g₀ hscan hallows hg hi hfree =>
    rcases List.mem_or_eq_of_mem_set hcell with hold | rfl
    · exact .kept cell hold
    · unfold Cell.visit
      split
      · rename_i hmatches
        obtain ⟨r, hr, hguard⟩ := hmatches
        exact .writes i visited c r g₀ rfl hi hallows hg hr hguard
      · exact .kept visited (List.mem_of_getElem? hi)
  | finishes c count => exact .kept cell hcell
  | fails s e => exact .kept cell hcell
  | drops s e =>
    obtain ⟨old, hold, rfl⟩ := List.mem_map.mp hcell
    exact .rollbacks old hold
  | loses e =>
    obtain ⟨old, hold, rfl⟩ := List.mem_map.mp hcell
    exact .commits old hold
  | replies s reply cells' hscan hallows hne hanswer =>
    cases s with
    | select =>
      cases hanswer
      exact .kept cell hcell
    | step =>
      cases hanswer
      exact .kept cell hcell
    | change c => exact absurd rfl (hne c)
    | commit =>
      cases hanswer
      obtain ⟨old, hold, rfl⟩ := List.mem_map.mp hcell
      exact .commits old hold
    | rollback =>
      cases hanswer
      obtain ⟨old, hold, rfl⟩ := List.mem_map.mp hcell
      exact .rollbacks old hold
    | insert row =>
      unfold Stmt.answer at hanswer
      dsimp only at hanswer
      split at hanswer
      · cases hanswer
        rcases List.mem_append.mp hcell with hold | hnew
        · exact .kept cell hold
        · rw [List.mem_singleton.mp hnew]
          exact .inserts row hallows
      · cases hanswer

/-- What a `SELECT` gives. -/
theorem Turn.rows_of_select {M : Monitor Row α} {cells cells' : List (Cell Key Row)}
    {scan scan' : Option (Change Row × List ℕ)} {g : α} {reply : Reply Row} {durable : Bool}
    (h : Turn sch M n cells scan g (.answers .select (.ok reply) durable : Event Row ε) cells'
      scan') : reply.rows = visibleRows n cells := by
  cases h with
  | replies _ _ _ _ _ _ hanswer =>
    cases hanswer
    rfl

end Cells

namespace Lifecycle

variable [DecidableEq Id] {L : Lifecycle Key Row Id S} {sch : Schema Key Row ε}

/-- A write that hits the newest version of a row: it touches no subject, or it is the one that
the call is making. -/
theorem write_cases {id : Id} {g g₀ : Belief S} {c : Change Row} {r : Row}
    (hallows : (L.monitor sch id).allows g₀ (.change c))
    (hg : g = (L.monitor sch id).next g₀ (.change c) []) (hguard : c.guard r = true) :
    (L.subject r = none ∧ (c.set r).bind L.subject = none) ∨
    ∃ read last s target row', g = .moves read last target ∧ L.steps read target ∧
      L.steps last target ∧ L.subject r = some (id, s) ∧ c.set r = some row' ∧
      L.subject row' = some (id, target) := by
  have hmild : L.Mild sch c → L.subject r = none ∧ (c.set r).bind L.subject = none := by
    intro h
    obtain ⟨hnone, hset⟩ := h r hguard
    refine ⟨hnone, ?_⟩
    cases hr : c.set r with
    | none => rfl
    | some row' => exact (hset row' hr).1
  cases g₀ with
  | unread => exact Or.inl (hmild hallows)
  | moves => exact Or.inl (hmild hallows)
  | knows read last =>
    rcases hallows with h | ⟨target, hmoves, hread, hlast⟩
    · exact Or.inl (hmild h)
    · right
      obtain ⟨s, hs⟩ := (hmoves.guard r).mp hguard
      obtain ⟨row', hrow', hsubject⟩ := hmoves.set r s hs
      refine ⟨read, last, s, target, row', ?_, hread, hlast, hs, hrow', hsubject⟩
      rw [hg]
      show (L.target c id last).elim _ _ = _
      rw [target_of_moves hmoves]
      rfl

theorem subject_of_insert {id : Id} {g : Belief S} {row : Row}
    (h : (L.monitor sch id).allows g (.insert row)) : L.subject row = none := by
  cases g <;> exact h

/-! ### What a call knows -/

section Beliefs

variable {id : Id} {g : Belief S}

theorem read_next (s : Stmt Row) (rows : List Row) (hselect : g = .unread → s ≠ .select) :
    ((L.monitor sch id).next g s rows).read = g.read := by
  cases g with
  | unread =>
    cases s with
    | select => exact absurd rfl (hselect rfl)
    | _ => rfl
  | knows read last =>
    cases s with
    | change c =>
      show ((L.target c id last).elim _ _ : Belief S).read = some read
      cases L.target c id last <;> rfl
    | _ => rfl
  | moves read last target => cases s <;> rfl

theorem read_failed : ((L.monitor sch id).failed g).read = g.read := by
  cases g <;> rfl

variable (L sch id g) in
/-- Only the first reading changes what a call has read. -/
theorem read_after (ev : Event Row ε) :
    ((L.monitor sch id).after g ev).read = g.read ∨
    g = .unread ∧ ∃ reply durable, ev = .answers .select (.ok reply) durable ∧
      ((L.monitor sch id).after g ev).read = L.stageIn id reply.rows := by
  cases ev with
  | idle => exact Or.inl rfl
  | starts c => exact Or.inl (read_next _ _ (fun _ h => by cases h))
  | visits i => exact Or.inl rfl
  | answers s r durable =>
    cases r with
    | error e =>
      left
      cases s <;> exact read_failed
    | ok reply =>
      by_cases hfirst : g = .unread ∧ s = .select
      · obtain ⟨rfl, rfl⟩ := hfirst
        refine Or.inr ⟨rfl, reply, durable, rfl, ?_⟩
        show ((L.stageIn id reply.rows).elim _ _ : Belief S).read = _
        cases L.stageIn id reply.rows <;> rfl
      · left
        cases s with
        | change c => rfl
        | _ => exact read_next _ _ (fun hg hs => hfirst ⟨hg, hs⟩)

/-- What a call that still has not read knows before. -/
theorem unread_of_after {ev : Event Row ε} (h : (L.monitor sch id).after g ev = .unread) :
    g = .unread := by
  have hread : g.read = none := by
    rcases read_after L sch id g ev with hsame | ⟨hg, -⟩
    · rw [← hsame, h]
      rfl
    · rw [hg]
      rfl
  cases g with
  | unread => rfl
  | knows read last => cases hread
  | moves read last target => cases hread

end Beliefs

/-! ## What interleaved calls keep -/

section Runs

variable [DecidableEq Key] {rows : List Row} {code : ℕ → Prog Row ε α} {ids : ℕ → Id}
  {start : S → Prop}

/-- The changes keep the keys. -/
def Keeps (sch : Schema Key Row ε) (old new : Option Row) : Prop :=
  ∀ r r', old = some r → new = some r' → sch.key r' = sch.key r

omit [DecidableEq Key] in
theorem follows_of_allows (hkeyed : L.Keyed sch) {id : Id} {g : Belief S} {s : Stmt Row}
    (h : (L.monitor sch id).allows g s) : Follows (Keeps sch) s := by
  cases s with
  | change c =>
    rintro r hguard _ r' ⟨⟩ hset
    have hmild : L.Mild sch c → sch.key r' = sch.key r := fun h => ((h r hguard).2 r' hset).2
    cases g with
    | unread => exact hmild h
    | moves => exact hmild h
    | knows read last =>
      rcases h with h | ⟨target, hmoves, -⟩
      · exact hmild h
      · obtain ⟨s, hs⟩ := (hmoves.guard r).mp hguard
        obtain ⟨row', hrow', hsubject⟩ := hmoves.set r s hs
        rw [hset] at hrow'
        rw [Option.some.inj hrow', (hkeyed r id).mpr ⟨s, hs⟩, (hkeyed row' id).mpr ⟨_, hsubject⟩]
  | insert row =>
    rintro _ _ ⟨⟩
  | _ => trivial

omit [DecidableEq Key] in
theorem sound_of_reachable (hkeyed : L.Keyed sch) (hnodup : (rows.map sch.key).Nodup)
    (hcode : ∀ n, (code n).Obeys (L.monitor sch (ids n)) (fun _ _ => True) .unread)
    {σ : State Key Row ε α} (h : Reachable sch rows code σ) :
    SoundCells sch (fun _ => True) (fun _ => Keeps sch) σ.cells :=
  (h.sound (fun _ r r' hkeeps => hkeeps r r' rfl rfl) hnodup (fun _ _ => trivial)
    (fun n => (hcode n).issues (fun _ _ hallows => follows_of_allows hkeyed hallows))).2

variable (L sch ids start) in
/-- What any number of calls keep. -/
structure Staged (rows : List Row) (code : ℕ → Prog Row ε α)
    (x : Watched Key Row ε α (Belief S) Unit) : Prop where
  reached : Reachable sch rows code x.state
  obeying : x.Obeying (L.watch sch ids)
  grounded : ∀ cell ∈ x.state.cells, L.Grounded start (L.stages cell.trail)
  /-- what a call has read is among the committed stages -/
  known : ∀ n, ∀ s ∈ (x.ghosts n).read, ∀ cell ∈ x.state.cells, cell.key = L.key (ids n) →
    s ∈ L.stages cell.committed
  /-- a call that has not read has written no subject -/
  unread : ∀ n, x.ghosts n = .unread → ∀ cell ∈ x.state.cells, cell.owner = some n →
    (newest cell.trail).bind L.subject = none

variable {x : Watched Key Row ε α (Belief S) Unit} {m : Move ε}

theorem Staged.grounded_move (hkeyed : L.Keyed sch)
    (hsound : SoundCells sch (fun _ => True) (fun _ => Keeps sch) x.state.cells)
    (h : L.Staged sch ids start rows code x) :
    ∀ cell ∈ (x.move sch (L.watch sch ids) m).state.cells,
      L.Grounded start (L.stages cell.trail) := by
  intro cell hcell
  have hturn : Turn sch (L.monitor sch (ids m.call)) _ _ _ _ _ _ _ := h.obeying.turn m
  cases hturn.cell hcell with
  | kept _ hold => exact h.grounded cell hold
  | commits old hold =>
    rw [Cell.trail_commit]
    exact h.grounded old hold
  | rollbacks old hold =>
    exact (h.grounded old hold).of_suffix (stages_suffix (old.trail_rollback_suffix m.call))
  | writes i old c r g₀ hev hi hallows hg hr hguard =>
    have hold := List.mem_of_getElem? hi
    rw [Cell.trail_write, hr, Option.bind_some]
    rcases write_cases hallows hg hguard with ⟨-, hnone⟩ |
      ⟨read, last, s, target, row', hghost, hread, -, hs, hset, hsubject⟩
    · rw [stages_cons_none (show (⟨some m.call, c.set r⟩ : Version Row).row.bind L.subject = none
        from hnone)]
      exact h.grounded old hold
    · rw [hset, stages_cons_some (show (⟨some m.call, some row'⟩ : Version Row).row = some row'
        from rfl) hsubject]
      refine ⟨Or.inr ⟨read, ?_, hread⟩, h.grounded old hold⟩
      have hkey : old.key = L.key (ids m.call) := by
        rw [← (hsound.sound old hold).key_of_newest hr]
        exact (hkeyed r _).mpr ⟨s, hs⟩
      refine (stages_suffix old.committed_suffix).subset (h.known m.call read ?_ old hold hkey)
      rw [hghost]
      rfl
  | inserts row hallows =>
    have hnone := subject_of_insert hallows
    show L.Grounded start (L.stages [⟨some m.call, some row⟩])
    rw [stages_cons_none (show (⟨some m.call, some row⟩ : Version Row).row.bind L.subject = none
      from hnone)]
    trivial

omit [DecidableEq Key] in
/-- A committed stage stays committed. -/
theorem committed_stages {n : ℕ} {g : Belief S} {ev : Event Row ε} {id : Id}
    {cells : List (Cell Key Row)} {cell' : Cell Key Row}
    (h : CellTurn sch (L.monitor sch id) n cells g ev cell') (hkeyed : L.Keyed sch) {id' : Id}
    {s : S} (hkey : cell'.key = L.key id')
    (hcommitted : ∀ cell ∈ cells, cell.key = L.key id' → s ∈ L.stages cell.committed) :
    s ∈ L.stages cell'.committed := by
  cases h with
  | kept _ hold => exact hcommitted cell' hold hkey
  | commits old hold =>
    rw [Cell.key_commit] at hkey
    have hs := hcommitted old hold hkey
    unfold Cell.commit
    split
    · exact (stages_suffix old.committed_suffix).subset hs
    · exact hs
  | rollbacks old hold =>
    rw [Cell.key_rollback] at hkey
    rw [Cell.committed_rollback]
    exact hcommitted old hold hkey
  | writes i old c r g₀ hev hi => exact hcommitted old (List.mem_of_getElem? hi) hkey
  | inserts row hallows =>
    obtain ⟨s', hs'⟩ := (hkeyed row id').mp hkey
    have hnone := subject_of_insert hallows
    rw [hs'] at hnone
    cases hnone

theorem Staged.known_move (hkeyed : L.Keyed sch)
    (hsound : SoundCells sch (fun _ => True) (fun _ => Keeps sch) x.state.cells)
    (h : L.Staged sch ids start rows code x) (n : ℕ) :
    ∀ s ∈ ((x.move sch (L.watch sch ids) m).ghosts n).read,
      ∀ cell ∈ (x.move sch (L.watch sch ids) m).state.cells, cell.key = L.key (ids n) →
      s ∈ L.stages cell.committed := by
  intro s hs cell hcell hkey
  have hturn : Turn sch (L.monitor sch (ids m.call)) _ _ _ _ _ _ _ := h.obeying.turn m
  refine committed_stages (hturn.cell hcell) hkeyed hkey (fun old hold hold' => ?_)
  by_cases hn : n = m.call
  · subst hn
    rw [Watched.ghosts_move_self] at hs
    rcases read_after L sch (ids m.call) (x.ghosts m.call)
      (x.state.move sch m).1 with hsame | ⟨hunread, reply, durable, hev, hread⟩
    · exact h.known m.call s (hsame ▸ hs) old hold hold'
    · -- the first reading: the call has no version of its own
      rw [show (L.watch sch ids).monitor m.call = L.monitor sch (ids m.call) from rfl, hread] at hs
      rw [hev] at hturn
      obtain ⟨row, hrow, hsubject⟩ := stageIn_some hs
      rw [hturn.rows_of_select] at hrow
      obtain ⟨seen, hseen, hrow⟩ := List.mem_filterMap.mp hrow
      unfold Cell.visible at hrow
      split at hrow
      · have hnone := h.unread m.call hunread seen hseen (by assumption)
        rw [hrow, Option.bind_some, hsubject] at hnone
        cases hnone
      · have hseenKey : seen.key = L.key (ids m.call) := by
          rw [← (hsound.sound seen hseen).key_of_committed hrow]
          exact (hkeyed row _).mpr ⟨s, hsubject⟩
        have hsame : old = seen :=
          List.inj_on_of_nodup_map hsound.nodup hold hseen (hold'.trans hseenKey.symm)
        obtain ⟨older, hstages⟩ := stages_of_newest hrow hsubject
        rw [hsame, hstages]
        exact List.mem_cons_self
  · rw [Watched.ghosts_move_of_ne x hn] at hs
    exact h.known n s hs old hold hold'

omit [DecidableEq Key] in
/-- A cell of another call is not touched. -/
theorem owned_before {n j : ℕ} {g : Belief S} {ev : Event Row ε} {id : Id}
    {cells : List (Cell Key Row)} {cell' : Cell Key Row}
    (h : CellTurn sch (L.monitor sch id) n cells g ev cell') (hj : j ≠ n)
    (howner : cell'.owner = some j) : cell' ∈ cells := by
  cases h with
  | kept _ hold => exact hold
  | commits old hold =>
    unfold Cell.commit at howner ⊢
    split at howner
    · cases howner
    · rename_i hother
      rw [if_neg hother]
      exact hold
  | rollbacks old hold =>
    unfold Cell.rollback at howner ⊢
    split at howner
    · cases howner
    · rename_i hother
      rw [if_neg hother]
      exact hold
  | writes i old c r g₀ hev hi => exact absurd (Option.some.inj howner).symm hj
  | inserts row hallows => exact absurd (Option.some.inj howner).symm hj

theorem Staged.unread_move (h : L.Staged sch ids start rows code x) (n : ℕ)
    (hghost : (x.move sch (L.watch sch ids) m).ghosts n = .unread) :
    ∀ cell ∈ (x.move sch (L.watch sch ids) m).state.cells, cell.owner = some n →
      (newest cell.trail).bind L.subject = none := by
  intro cell hcell howner
  have hturn : Turn sch (L.monitor sch (ids m.call)) _ _ _ _ _ _ _ := h.obeying.turn m
  by_cases hn : n = m.call
  · subst hn
    rw [Watched.ghosts_move_self] at hghost
    have hunread : x.ghosts m.call = .unread := unread_of_after hghost
    cases hturn.cell hcell with
    | kept _ hold => exact h.unread m.call hunread cell hold howner
    | commits old hold =>
      unfold Cell.commit at howner
      split at howner
      · cases howner
      · exact absurd howner (by assumption)
    | rollbacks old hold =>
      unfold Cell.rollback at howner
      split at howner
      · cases howner
      · exact absurd howner (by assumption)
    | writes i old c r g₀ hev hi hallows hg hr hguard =>
      rw [Cell.trail_write, hr, Option.bind_some]
      rcases write_cases hallows hg hguard with ⟨-, hnone⟩ | ⟨read, last, s, target, row', hmoves, -⟩
      · exact hnone
      · rw [hunread] at hmoves
        cases hmoves
    | inserts row hallows => exact subject_of_insert hallows
  · rw [Watched.ghosts_move_of_ne x hn] at hghost
    exact h.unread n hghost cell (owned_before (hturn.cell hcell) hn howner) howner

theorem Staged.move (hkeyed : L.Keyed sch) (hnodup : (rows.map sch.key).Nodup)
    (hcode : ∀ n, (code n).Obeys (L.monitor sch (ids n)) (fun _ _ => True) .unread)
    (h : L.Staged sch ids start rows code x) : L.Staged sch ids start rows code
      (x.move sch (L.watch sch ids) m) := by
  have hsound := sound_of_reachable hkeyed hnodup hcode h.reached
  exact ⟨h.reached.trans (x.state.moved sch m).reaches, h.obeying.move m,
    h.grounded_move hkeyed hsound, h.known_move hkeyed hsound, h.unread_move⟩

omit [DecidableEq Key] in
/-- Initially each row has one version. -/
theorem trail_init {cell : Cell Key Row} (h : cell ∈ (State.init sch rows code).cells) :
    ∃ row ∈ rows, cell = { key := sch.key row, committed := [⟨none, some row⟩] } := by
  obtain ⟨row, hrow, rfl⟩ := List.mem_map.mp h
  exact ⟨row, hrow, rfl⟩

/-- **Nobody skips a stage**: in every run of any number of calls, each stage of a row that is
not a starting one follows one that the row has had before. -/
theorem Staged.run (hkeyed : L.Keyed sch) (hnodup : (rows.map sch.key).Nodup)
    (hstart : ∀ row ∈ rows, ∀ id s, L.subject row = some (id, s) → start s)
    (hcode : ∀ n, (code n).Obeys (L.monitor sch (ids n)) (fun _ _ => True) .unread)
    (moves : List (Move ε)) :
    L.Staged sch ids start rows code ((Watched.start sch rows code (fun _ => .unread) ()).run sch
      (L.watch sch ids) moves) := by
  refine Watched.run_keeps (C := fun _ _ => True)
    (fun x m hx _ => hx.move hkeyed hnodup hcode) ?_ ?_
  · refine ⟨.refl, hcode, fun cell hcell => ?_, fun n s hs => (by cases hs),
      fun n _ cell hcell howner => ?_⟩
    · obtain ⟨row, hrow, rfl⟩ := trail_init hcell
      show L.Grounded start (L.stages [_])
      cases hsubject : L.subject row with
      | none =>
        rw [stages_cons_none (show (⟨none, some row⟩ : Version Row).row.bind L.subject = none
          from hsubject)]
        trivial
      | some subject =>
        rw [stages_cons_some (show (⟨none, some row⟩ : Version Row).row = some row from rfl)
          (show L.subject row = some (subject.1, subject.2) from hsubject)]
        exact ⟨Or.inl ⟨rfl, hstart row hrow _ _ hsubject⟩, trivial⟩
    · obtain ⟨row, -, rfl⟩ := trail_init hcell
      cases howner
  · generalize Watched.start sch rows code (fun _ => Belief.unread) () = x
    induction moves generalizing x with
    | nil => trivial
    | cons m moves ih => exact ⟨trivial, ih _⟩

/-! ## Writes in time -/

/-- The stage that an `UPDATE` finds in the row that it visits. -/
def found (L : Lifecycle Key Row Id S) (cells : List (Cell Key Row)) : Event Row ε → Option S
  | .visits i => ((cells[i]?.bind (fun cell => newest cell.trail)).bind L.subject).map Prod.snd
  | _ => none

variable (L sch) in
/-- A write finds the stage that its call knows. -/
def InTime (x : Watched Key Row ε α (Belief S) Unit) (m : Move ε) : Prop :=
  ∀ s ∈ L.found x.state.cells (x.state.move sch m).1, ∀ last ∈ (x.ghosts m.call).leaves, s = last

instance [DecidableEq S] (x : Watched Key Row ε α (Belief S) Unit) (m : Move ε) :
    Decidable (InTime L sch x m) :=
  inferInstanceAs (Decidable (∀ s ∈ _, ∀ last ∈ _, s = last))

variable (L sch ids) in
/-- What calls keep whose writes are in time. -/
structure Ordered (x : Watched Key Row ε α (Belief S) Unit) : Prop where
  obeying : x.Obeying (L.watch sch ids)
  linear : ∀ cell ∈ x.state.cells, L.Linear (L.stages cell.trail)

/-- **A write in time takes the row on by one step.** -/
theorem Ordered.move (h : L.Ordered sch ids x) (htime : InTime L sch x m) :
    L.Ordered sch ids (x.move sch (L.watch sch ids) m) := by
  refine ⟨h.obeying.move m, fun cell hcell => ?_⟩
  have hturn : Turn sch (L.monitor sch (ids m.call)) _ _ _ _ _ _ _ := h.obeying.turn m
  cases hturn.cell hcell with
  | kept _ hold => exact h.linear cell hold
  | commits old hold =>
    rw [Cell.trail_commit]
    exact h.linear old hold
  | rollbacks old hold =>
    exact (h.linear old hold).of_suffix (stages_suffix (old.trail_rollback_suffix m.call))
  | writes i old c r g₀ hev hi hallows hg hr hguard =>
    have hlinear := h.linear old (List.mem_of_getElem? hi)
    rw [Cell.trail_write, hr, Option.bind_some]
    rcases write_cases hallows hg hguard with ⟨-, hnone⟩ |
      ⟨read, last, s, target, row', hghost, -, hlast, hs, hset, hsubject⟩
    · rw [stages_cons_none (show (⟨some m.call, c.set r⟩ : Version Row).row.bind L.subject = none
        from hnone)]
      exact hlinear
    · have hfound : L.found x.state.cells (x.state.move sch m).1 = some s := by
        rw [hev]
        show ((x.state.cells[i]?.bind (fun cell => newest cell.trail)).bind L.subject).map Prod.snd
          = some s
        rw [hi, Option.bind_some, hr, Option.bind_some, hs]
        rfl
      have hsame : s = last := htime s hfound last (by rw [hghost]; rfl)
      obtain ⟨older, hstages⟩ := stages_of_newest hr hs
      rw [hset, stages_cons_some (show (⟨some m.call, some row'⟩ : Version Row).row = some row'
        from rfl) hsubject, hstages]
      rw [hstages] at hlinear
      refine List.IsChain.cons_cons ?_ hlinear
      rw [hsame]
      exact hlast
  | inserts row hallows =>
    show L.Linear (L.stages [⟨some m.call, some row⟩])
    rw [stages_cons_none (show (⟨some m.call, some row⟩ : Version Row).row.bind L.subject = none
      from subject_of_insert hallows)]
    exact List.IsChain.nil

/-- **Writes in time go from stage to stage**, in every run of any number of calls. -/
theorem Ordered.run (hcode : ∀ n, (code n).Obeys (L.monitor sch (ids n)) (fun _ _ => True) .unread)
    {moves : List (Move ε)}
    (hmeets : (Watched.start sch rows code (fun _ => .unread) ()).Meets sch (L.watch sch ids)
      (InTime L sch) moves) :
    L.Ordered sch ids ((Watched.start sch rows code (fun _ => .unread) ()).run sch
      (L.watch sch ids) moves) := by
  refine Watched.run_keeps (fun x m hx htime => hx.move htime) ⟨hcode, fun cell hcell => ?_⟩ hmeets
  obtain ⟨row, -, rfl⟩ := trail_init hcell
  show L.Linear (L.stages [_])
  rcases stages_singleton (L := L) ⟨none, some row⟩ with h | ⟨s, h⟩
  · rw [h]
    exact List.IsChain.nil
  · rw [h]
    exact List.IsChain.singleton s

/-! ## What is committed -/

omit [DecidableEq Id] [DecidableEq Key] in
/-- A cell stays, and committed versions are not taken back. -/
theorem grows_of_touch {n : ℕ} {P : Stmt Row → Prop} {cell cell' : Cell Key Row}
    (h : Touch n P cell cell') : cell'.key = cell.key ∧ cell.committed <:+ cell'.committed := by
  cases h with
  | keep => exact ⟨rfl, List.suffix_rfl⟩
  | commit =>
    refine ⟨cell.key_commit n, ?_⟩
    unfold Cell.commit
    split
    · exact cell.committed_suffix
    · exact List.suffix_rfl
  | rollback =>
    refine ⟨cell.key_rollback n, ?_⟩
    have hsame : (cell.rollback n).committed = cell.committed := Cell.committed_rollback n cell
    exact hsame.symm ▸ List.suffix_rfl
  | write c r => exact ⟨rfl, List.suffix_rfl⟩

omit [DecidableEq Id] [DecidableEq Key] in
theorem grows_of_evolves {n : ℕ} {P : Stmt Row → Prop} {cells cells' : List (Cell Key Row)}
    (h : Evolves sch n P cells cells') {cell : Cell Key Row} (hcell : cell ∈ cells) :
    ∃ next ∈ cells', next.key = cell.key ∧ cell.committed <:+ next.committed := by
  cases h with
  | touch hall =>
    obtain ⟨next, hnext, htouch⟩ := forall₂_exists hall hcell
    exact ⟨next, hnext, grows_of_touch htouch⟩
  | insert row hP hfresh => exact ⟨cell, List.mem_append_left _ hcell, rfl, List.suffix_rfl⟩

variable (sch) in
omit [DecidableEq Id] in
/-- The cells after some more moves. -/
theorem grows (W : Watch Row ε (Belief S) Unit) (later : List (Move ε)) {cell : Cell Key Row}
    (h : cell ∈ x.state.cells) : ∃ cell' ∈ (x.run sch W later).state.cells,
      cell'.key = cell.key ∧ cell.committed <:+ cell'.committed := by
  induction later generalizing x cell with
  | nil => exact ⟨cell, h, rfl, List.suffix_rfl⟩
  | cons m later ih =>
    obtain ⟨next, hnext, hkey, hsuffix⟩ := grows_of_evolves (x.state.moved sch m).evolves h
    obtain ⟨cell', hcell', hkey', hsuffix'⟩ := ih (x := x.move sch W m) hnext
    exact ⟨cell', hcell', hkey'.trans hkey, hsuffix.trans hsuffix'⟩

/-- **From an earlier stage to a later one.** -/
theorem Ordered.path (hkeyed : L.Keyed sch) (hnodup : (rows.map sch.key).Nodup)
    (hcode : ∀ n, (code n).Obeys (L.monitor sch (ids n)) (fun _ _ => True) .unread)
    {moves later : List (Move ε)}
    (hmeets : (Watched.start sch rows code (fun _ => .unread) ()).Meets sch (L.watch sch ids)
      (InTime L sch) (moves ++ later)) {row row' : Row} {id : Id} {s s' : S}
    (hrow : row ∈ committedRows ((Watched.start sch rows code (fun _ => .unread) ()).run sch
      (L.watch sch ids) moves).state.cells)
    (hrow' : row' ∈ committedRows ((Watched.start sch rows code (fun _ => .unread) ()).run sch
      (L.watch sch ids) (moves ++ later)).state.cells)
    (hs : L.subject row = some (id, s)) (hs' : L.subject row' = some (id, s')) :
    Relation.ReflTransGen L.steps s s' := by
  have hordered := Ordered.run hcode hmeets
  have hstaged : ∀ moves, L.Staged sch ids (fun _ => True) rows code ((Watched.start sch rows code
      (fun _ => .unread) ()).run sch (L.watch sch ids) moves) :=
    Staged.run hkeyed hnodup (fun _ _ _ _ _ => trivial) hcode
  have hsound := fun moves => sound_of_reachable hkeyed hnodup hcode (hstaged moves).reached
  obtain ⟨cell, hcell, hnewest⟩ := List.mem_filterMap.mp hrow
  obtain ⟨cell', hcell', hnewest'⟩ := List.mem_filterMap.mp hrow'
  obtain ⟨grown, hgrown, hkey, hsuffix⟩ := grows sch (L.watch sch ids) later hcell
  have hrun : ((Watched.start sch rows code (fun _ => Belief.unread) ()).run sch (L.watch sch ids)
      moves).run sch (L.watch sch ids) later = (Watched.start sch rows code
        (fun _ => Belief.unread) ()).run sch (L.watch sch ids) (moves ++ later) := by
    unfold Watched.run
    rw [List.foldl_append]
  rw [hrun] at hgrown
  -- the two rows are versions of one cell
  have hsame : grown = cell' := by
    refine List.inj_on_of_nodup_map (hsound _).nodup hgrown hcell' ?_
    rw [hkey, ← ((hsound moves).sound cell hcell).key_of_committed hnewest,
      ← ((hsound _).sound cell' hcell').key_of_committed hnewest', (hkeyed row id).mpr ⟨s, hs⟩,
      (hkeyed row' id).mpr ⟨s', hs'⟩]
  rw [hsame] at hsuffix
  obtain ⟨older, hstages⟩ := stages_of_newest hnewest hs
  obtain ⟨older', hstages'⟩ := stages_of_newest hnewest' hs'
  have hlinear := (hordered.linear cell' hcell').of_suffix (stages_suffix cell'.committed_suffix)
  have hpath := stages_suffix (L := L) hsuffix
  rw [hstages, hstages'] at hpath
  rw [hstages'] at hlinear
  exact hlinear.path hpath

/-- The stages of the committed versions of a subject, newest first. -/
def history (L : Lifecycle Key Row Id S) (id : Id) (cells : List (Cell Key Row)) : List S :=
  ((cells.find? (fun cell => cell.key = L.key id)).map
    (fun cell => L.stages cell.committed)).getD []

theorem Staged.grounded_history (h : L.Staged sch ids start rows code x) (id : Id) :
    L.Grounded start (L.history id x.state.cells) := by
  unfold history
  cases hfind : x.state.cells.find? (fun cell => cell.key = L.key id) with
  | none => trivial
  | some cell =>
    exact (h.grounded cell (List.mem_of_find?_eq_some hfind)).of_suffix
      (stages_suffix cell.committed_suffix)

omit [DecidableEq Id] in
/-- The stage that is committed is the newest of the history. -/
theorem history_of_committed (hkeyed : L.Keyed sch)
    (hsound : SoundCells sch (fun _ => True) (fun _ => Keeps sch) x.state.cells) {row : Row}
    {id : Id} {s : S} (hrow : row ∈ committedRows x.state.cells)
    (hs : L.subject row = some (id, s)) : ∃ older, L.history id x.state.cells = s :: older := by
  obtain ⟨cell, hcell, hnewest⟩ := List.mem_filterMap.mp hrow
  have hkey : cell.key = L.key id := by
    rw [← (hsound.sound cell hcell).key_of_committed hnewest]
    exact (hkeyed row id).mpr ⟨s, hs⟩
  unfold history
  cases hfind : x.state.cells.find? (fun cell => cell.key = L.key id) with
  | none => exact absurd (decide_eq_true hkey) (List.find?_eq_none.mp hfind cell hcell)
  | some other =>
    have hfound := List.find?_some hfind
    have hother : other.key = L.key id := of_decide_eq_true hfound
    rw [List.inj_on_of_nodup_map hsound.nodup (List.mem_of_find?_eq_some hfind) hcell
      (hother.trans hkey.symm)]
    exact stages_of_newest hnewest hs

end Runs

end Lifecycle

end Transaction

/-
# Takeovers

The rows of a group compete for being chosen.  A call that takes over a group reads, retires
the chosen rows of the group with one `UPDATE`, promotes its own row with another, and
commits; the promoted row may get a stamp above all stamps that the call has read.

The module proves what any number of such calls keep: no group has two chosen rows, and no
two rows have one stamp, as long as no call commits when a takeover of the same group by
another row has become durable in its window.
-/
import ControlPlane.Moves
import Mathlib.Data.Int.Notation

namespace Transaction

variable {Key Row ε α Group : Type}

/-- The competition: the group of a row, in which group it is chosen, if in any, and its stamp.
With stamps the window of a call opens when it reads, without them when it starts to retire. -/
structure Contest (Row Group : Type) where
  home : Row → Group
  chosen : Row → Option Group
  stamp : Row → Option ℤ
  largest : List Row → ℤ
  le_largest : ∀ (rows : List Row) (r : Row) (s : ℤ), r ∈ rows → stamp r = some s →
    s ≤ largest rows
  stamped : Bool

/-- How far the transaction of a call has come: its reads, newest first, or the row that it
promotes in a group. -/
inductive Phase (Key Row Group : Type) where
  | reading (reads : List (List Row))
  | editing
  | retiring (target : Key) (group : Group) (reads : List (List Row))
  | promoting (target : Key) (group : Group) (reads : List (List Row))
  | broken

/-- The reads of a call that may take over. -/
def Phase.reads : Phase Key Row Group → List (List Row)
  | reading reads => reads
  | retiring _ _ reads => reads
  | promoting _ _ reads => reads
  | _ => []

/-- The takeover under way. -/
def Phase.takes : Phase Key Row Group → Option (Key × Group)
  | retiring target group _ => some (target, group)
  | promoting target group _ => some (target, group)
  | _ => none

/-- The takeover that a commit makes durable. -/
def Phase.publishes : Phase Key Row Group → List (Key × Group)
  | promoting target group _ => [(target, group)]
  | _ => []

/-- The cells that are still to be retired. -/
def Phase.left : Phase Key Row Group → Option (Change Row × List ℕ) → List ℕ
  | retiring _ _ _, some (_, rest) => rest
  | _, _ => []

/-- The takeovers that have become durable, newest first, and how many there were when the
window of each call opened. -/
structure Takeovers (Key Group : Type) where
  log : List (Key × Group) := []
  opened : ℕ → ℕ := fun _ => 0

namespace Takeovers

/-- The takeovers in the window of a call. -/
def since (l : Takeovers Key Group) (n : ℕ) : List (Key × Group) :=
  l.log.take (l.log.length - l.opened n)

/-- The window of a call opens. -/
def reopen (l : Takeovers Key Group) (n : ℕ) : Takeovers Key Group :=
  { l with opened := Function.update l.opened n l.log.length }

/-- Takeovers become durable. -/
def publish (l : Takeovers Key Group) (es : List (Key × Group)) : Takeovers Key Group :=
  { l with log := es ++ l.log }

variable {l : Takeovers Key Group}

theorem since_reopen_of_ne {n j : ℕ} (hj : j ≠ n) : (l.reopen n).since j = l.since j := by
  unfold since reopen
  dsimp only
  rw [Function.update_of_ne hj]

theorem since_publish {es : List (Key × Group)} {j : ℕ} (hopened : l.opened j ≤ l.log.length) :
    (l.publish es).since j = es ++ l.since j := by
  unfold since publish
  dsimp only
  rw [List.length_append, Nat.add_sub_assoc hopened, List.take_append,
    List.take_of_length_le (by omega), Nat.add_sub_cancel_left]

end Takeovers

namespace Contest

variable (K : Contest Row Group) (sch : Schema Key Row ε)

/-- The largest stamp of the last read. -/
def bound (reads : List (List Row)) : ℤ := K.largest (reads.head?.getD [])

/-- An `UPDATE` that chooses no row. -/
def Mild (c : Change Row) : Prop :=
  ∀ r, c.guard r = true → ∃ r', c.set r = some r' ∧ sch.key r' = sch.key r ∧
    K.home r' = K.home r ∧ K.stamp r' = K.stamp r ∧
    (K.chosen r' = none ∨ K.chosen r' = K.chosen r)

/-- An `UPDATE` that retires the other chosen rows of a group. -/
structure Retires (c : Change Row) (target : Key) (group : Group) : Prop where
  reaches : ∀ r, K.chosen r = some group → sch.key r ≠ target → c.guard r = true
  retires : ∀ r, c.guard r = true → sch.key r ≠ target ∧ ∃ r', c.set r = some r' ∧
    sch.key r' = sch.key r ∧ K.home r' = K.home r ∧ K.stamp r' = K.stamp r ∧ K.chosen r' = none

/-- An `UPDATE` that promotes the target in its group, if anything. -/
def Promotes (c : Change Row) (target : Key) (bound : ℤ) : Prop :=
  ∀ r, c.guard r = true → sch.key r = target ∧ ∃ r', c.set r = some r' ∧
    sch.key r' = sch.key r ∧ K.home r' = K.home r ∧
    (K.chosen r' = none ∨ K.chosen r' = some (K.home r)) ∧
    (K.stamp r' = K.stamp r ∨ K.stamp r' = some (bound + 1))

/-- Some row among the reads has the key and the group. -/
def Aims (reads : List (List Row)) (target : Key) (group : Group) : Prop :=
  ∃ rows ∈ reads, ∃ r ∈ rows, sch.key r = target ∧ K.home r = group

/-! ## Calls that take over -/

/-- The monitor of a call that promotes what its plan says after its reads. -/
def monitor (plan : List (List Row) → Option (Key × Group)) :
    Monitor Row (Phase Key Row Group) where
  allows
    | .reading _, .insert row => K.chosen row = none ∧ K.stamp row = none
    | .reading reads, .change c =>
      match plan reads with
      | some (target, group) => K.Aims sch reads target group ∧ K.Retires sch c target group
      | none => K.Mild sch c
    | .retiring target _ reads, .change c => K.Promotes sch c target (K.bound reads)
    | _, .insert _ => False
    | _, .change _ => False
    | .retiring _ _ _, .commit => False
    | .broken, .commit => False
    | _, _ => True
  next
    | .reading reads, .select, rows => .reading (rows :: reads)
    | .reading reads, .change _, _ =>
      match plan reads with
      | some (target, group) => .retiring target group reads
      | none => .editing
    | .reading _, .insert _, _ => .editing
    | .retiring target group reads, .change _, _ => .promoting target group reads
    | _, .commit, _ => .reading []
    | _, .rollback, _ => .reading []
    | phase, _, _ => phase
  failed _ := .broken

/-- The takeovers after a move of a call. -/
def note (l : Takeovers Key Group) (n : ℕ) (phase : Phase Key Row Group) :
    Event Row ε → Takeovers Key Group
  | .answers .select (.ok _) _ =>
    match phase with
    | .reading _ => if K.stamped then l.reopen n else l
    | _ => l
  | .starts _ =>
    match phase with
    | .reading _ => if K.stamped then l else l.reopen n
    | _ => l
  | .answers .commit _ true => l.publish phase.publishes
  | _ => l

/-- The watch over calls with the given plans. -/
def watch (plan : ℕ → List (List Row) → Option (Key × Group)) :
    Watch Row ε (Phase Key Row Group) (Takeovers Key Group) where
  monitor n := K.monitor sch (plan n)
  note := K.note

variable {K sch} {plan : List (List Row) → Option (Key × Group)}
  {phase : Phase Key Row Group} {c : Change Row}

variable (sch) in
/-- The `UPDATE` by which a call begins to take over. -/
theorem begins_of_plan {reads : List (List Row)} {target : Key} {group : Group}
    (hplan : plan reads = some (target, group)) (haims : K.Aims sch reads target group)
    (hretires : K.Retires sch c target group) :
    (K.monitor sch plan).allows (.reading reads) (.change c) ∧ ∀ rows,
      (K.monitor sch plan).next (.reading reads) (.change c) rows
        = .retiring target group reads := by
  unfold monitor
  dsimp only
  rw [hplan]
  exact ⟨⟨haims, hretires⟩, fun _ => rfl⟩

variable (sch) in
/-- An `UPDATE` of a call that does not take over. -/
theorem edits_of_plan {reads : List (List Row)} (hplan : plan reads = none)
    (hmild : K.Mild sch c) :
    (K.monitor sch plan).allows (.reading reads) (.change c) ∧ ∀ rows,
      (K.monitor sch plan).next (.reading reads) (.change c) rows = .editing := by
  unfold monitor
  dsimp only
  rw [hplan]
  exact ⟨hmild, fun _ => rfl⟩

variable (K sch plan) in
/-- The `UPDATE`s of a call, with the phase before and after. -/
inductive Edits : Phase Key Row Group → Change Row → Phase Key Row Group → Prop
  | mild (reads : List (List Row)) (c : Change Row) : K.Mild sch c →
      Edits (.reading reads) c .editing
  | retire (reads : List (List Row)) (c : Change Row) (target : Key) (group : Group) :
      K.Aims sch reads target group → K.Retires sch c target group →
      Edits (.reading reads) c (.retiring target group reads)
  | promote (reads : List (List Row)) (c : Change Row) (target : Key) (group : Group) :
      K.Promotes sch c target (K.bound reads) →
      Edits (.retiring target group reads) c (.promoting target group reads)

theorem edits_of_allows (h : (K.monitor sch plan).allows phase (.change c)) :
    K.Edits sch phase c ((K.monitor sch plan).next phase (.change c) []) := by
  cases phase with
  | reading reads =>
    unfold monitor at h ⊢
    dsimp only at h ⊢
    cases hplan : plan reads with
    | none =>
      rw [hplan] at h
      exact .mild reads c h
    | some e =>
      rw [hplan] at h
      exact .retire reads c e.1 e.2 h.1 h.2
  | retiring target group reads => exact .promote reads c target group h
  | editing => exact h.elim
  | promoting target group reads => exact h.elim
  | broken => exact h.elim

theorem Edits.reads {phase' : Phase Key Row Group} (h : K.Edits sch phase c phase') :
    phase'.reads = phase.reads ∨ phase'.reads = [] := by
  cases h with
  | mild => exact .inr rfl
  | retire => exact .inl rfl
  | promote => exact .inl rfl

variable (K sch) in
/-- A row keeps its key and its group. -/
def Stays (q q' : Option Row) : Prop :=
  ∀ r r', q = some r → q' = some r' → sch.key r' = sch.key r ∧ K.home r' = K.home r

/-- Every row keeps its key and its group. -/
theorem follows_of_allows {s : Stmt Row} (h : (K.monitor sch plan).allows phase s) :
    Follows (K.Stays sch) s := by
  cases s with
  | change c =>
    intro r hr r₁ r' hr₁ hr'
    cases hr₁
    have hset : ∃ r'', c.set r = some r'' ∧ sch.key r'' = sch.key r ∧ K.home r'' = K.home r := by
      have hedits := edits_of_allows h
      revert hedits
      generalize (K.monitor sch plan).next phase (.change c) [] = phase'
      intro hedits
      cases hedits with
      | mild reads _ hmild =>
        obtain ⟨r'', hset, hkey, hhome, -⟩ := hmild r hr
        exact ⟨r'', hset, hkey, hhome⟩
      | retire reads _ target group haims hretires =>
        obtain ⟨-, r'', hset, hkey, hhome, -⟩ := hretires.retires r hr
        exact ⟨r'', hset, hkey, hhome⟩
      | promote reads _ target group hpromotes =>
        obtain ⟨-, r'', hset, hkey, hhome, -⟩ := hpromotes r hr
        exact ⟨r'', hset, hkey, hhome⟩
    obtain ⟨r'', hset, hstays⟩ := hset
    rw [hset] at hr'
    cases hr'
    exact hstays
  | insert row => exact fun r r' hr => nomatch hr
  | select => trivial
  | commit => trivial
  | rollback => trivial
  | step => trivial

/-! ## Rows that have been read -/

/-- The row is a committed version. -/
def Known (r : Row) (cells : List (Cell Key Row)) : Prop :=
  ∃ cell ∈ cells, ∃ v ∈ cell.committed, v.row = some r

/-- What is committed stays committed. -/
theorem Known.evolves {n : ℕ} {P : Stmt Row → Prop} {cells cells' : List (Cell Key Row)} {r : Row}
    (h : Known r cells) (he : Evolves sch n P cells cells') : Known r cells' := by
  obtain ⟨cell, hcell, v, hv, hrow⟩ := h
  cases he with
  | touch hall =>
    obtain ⟨cell', hcell', ht⟩ := forall₂_exists hall hcell
    refine ⟨cell', hcell', v, ?_, hrow⟩
    cases ht with
    | keep => exact hv
    | commit =>
      unfold Cell.commit
      split
      · exact cell.committed_suffix.subset hv
      · exact hv
    | rollback =>
      rw [Cell.committed_rollback]
      exact hv
    | write => exact hv
  | insert row _ _ => exact ⟨cell, List.mem_append_left _ hcell, v, hv, hrow⟩

/-- All versions of a row have one group. -/
theorem home_of_trail {Init : Row → Prop} {l : List (Version Row)}
    (h : Trail Init (fun _ => K.Stays sch) l) {r : Row} (hr : newest l = some r) :
    ∀ v ∈ l, ∀ r', v.row = some r' → K.home r' = K.home r := by
  induction h generalizing r with
  | nil => exact nomatch hr
  | initial row _ =>
    intro v hv r' hr'
    rw [List.mem_singleton.mp hv] at hr'
    exact congrArg K.home (Option.some.inj (hr'.symm.trans hr))
  | insert n row _ =>
    intro v hv r' hr'
    rw [List.mem_singleton.mp hv] at hr'
    exact congrArg K.home (Option.some.inj (hr'.symm.trans hr))
  | move n r₀ row rest hrest hstays _ ih =>
    intro v hv r' hr'
    rcases List.mem_cons.mp hv with rfl | hv
    · exact congrArg K.home (Option.some.inj (hr'.symm.trans hr))
    · exact (ih hrest v hv r' hr').trans (hstays r₀ r rfl hr).2.symm

/-- A row has the group of what has been read of it. -/
theorem home_of_known {Init : Row → Prop} {cells : List (Cell Key Row)}
    (hsound : SoundCells sch Init (fun _ => K.Stays sch) cells) {r r' : Row} (h : Known r cells)
    {cell : Cell Key Row} (hcell : cell ∈ cells) (hkey : sch.key r = cell.key)
    (hr' : newest cell.trail = some r') : K.home r' = K.home r := by
  obtain ⟨cell₀, hcell₀, v, hv, hrow⟩ := h
  have hv := cell₀.committed_suffix.subset hv
  have hkey₀ := (hsound.sound cell₀ hcell₀).keyed v hv r hrow
  obtain rfl := List.inj_on_of_nodup_map hsound.nodup hcell₀ hcell (hkey₀.symm.trans hkey)
  exact (home_of_trail (hsound.sound cell₀ hcell₀).trail hr' v hv r hrow).symm

/-! ## What fits the phase of a call -/

variable (K) in
/-- The group in which the newest of some versions is chosen. -/
def chosenOf (l : List (Version Row)) : Option Group := (newest l).bind K.chosen

variable (K) in
/-- The stamp of the newest of some versions. -/
def stampOf (l : List (Version Row)) : Option ℤ := (newest l).bind K.stamp

variable (K) in
/-- The call leaves the chosen rows and the stamps as they are, or drops a chosen row. -/
structure Calm (cell : Cell Key Row) : Prop where
  chosen : K.chosenOf cell.trail = none ∨ K.chosenOf cell.trail = K.chosenOf cell.committed
  stamp : K.stampOf cell.trail = K.stampOf cell.committed

variable (K) in
/-- The call has retired the row. -/
structure Retired (target : Key) (cell : Cell Key Row) : Prop where
  key : cell.key ≠ target
  chosen : K.chosenOf cell.trail = none
  stamp : K.stampOf cell.trail = K.stampOf cell.committed

variable (K) in
/-- The call has promoted the row. -/
structure Promoted (target : Key) (group : Group) (bound : ℤ) (cell : Cell Key Row) : Prop where
  key : cell.key = target
  chosen : K.chosenOf cell.trail = none ∨ K.chosenOf cell.trail = some group
  stamp : K.stampOf cell.trail = K.stampOf cell.committed ∨
    K.stampOf cell.trail = some (bound + 1)

variable (K) in
/-- What a call in a phase has made of a row whose lock it holds. -/
def Holds (cell : Cell Key Row) : Phase Key Row Group → Prop
  | .reading _ => False
  | .editing => K.Calm cell
  | .retiring target _ _ => K.Retired target cell
  | .promoting target group reads =>
    K.Retired target cell ∨ K.Promoted target group (K.bound reads) cell
  | .broken => True

variable (K sch) in
/-- The cells fit the phase of the call `n`, given the cells that it has still to retire and
the takeovers in its window. -/
structure Fits (n : ℕ) (phase : Phase Key Row Group) (left : List ℕ)
    (since : List (Key × Group)) (cells : List (Cell Key Row)) : Prop where
  /-- the rows whose locks the call holds -/
  holds : ∀ (i : ℕ) (cell : Cell Key Row), cells[i]? = some cell → cell.owner = some n →
    K.Holds cell phase
  /-- a chosen row of the group is retired, or it will be, or it has come in the window -/
  covers : ∀ (target : Key) (group : Group), phase.takes = some (target, group) →
    ∀ (i : ℕ) (cell : Cell Key Row), cells[i]? = some cell →
      K.chosenOf cell.committed = some group → cell.key ≠ target →
      i ∈ left ∨ cell.owner = some n ∨ (cell.key, group) ∈ since
  /-- a stamp above those that the call has read has come in the window -/
  bounded : K.stamped = true → phase.reads ≠ [] →
    ∀ (i : ℕ) (cell : Cell Key Row) (s : ℤ), cells[i]? = some cell →
      K.stampOf cell.committed = some s →
      s ≤ K.bound phase.reads ∨ ∃ group, (cell.key, group) ∈ since
  /-- a call that takes over has read its target -/
  aimed : ∀ (target : Key) (group : Group), phase.takes = some (target, group) →
    K.Aims sch phase.reads target group

/-! ### The moves of the others -/

variable (K) in
/-- What the other calls can make of a cell, as the call `j` sees it, when they publish some
takeovers. -/
structure Beside (j : ℕ) (es : List (Key × Group)) (cell cell' : Cell Key Row) : Prop where
  key : cell'.key = cell.key
  mine : cell.owner = some j ∨ cell'.owner = some j → cell' = cell
  chosen : ∀ group, K.chosenOf cell'.committed = some group →
    K.chosenOf cell.committed = some group ∨ (cell.key, group) ∈ es
  stamp : ∀ s, K.stampOf cell'.committed = some s →
    K.stampOf cell.committed = some s ∨ ∃ group, (cell.key, group) ∈ es

theorem Beside.refl (j : ℕ) (cell : Cell Key Row) : K.Beside j [] cell cell where
  key := rfl
  mine _ := rfl
  chosen _ h := .inl h
  stamp _ h := .inl h

/-- A row that another call visits. -/
theorem Beside.visit {n j : ℕ} (hj : j ≠ n) (c : Change Row) {cell : Cell Key Row}
    (hfree : cell.FreeFor n) : K.Beside j [] cell (cell.visit n c) where
  key := cell.key_visit n c
  mine := by
    rintro (hown | hown)
    · exfalso
      rcases hfree with hnil | hown'
      · rw [Cell.owner, hnil] at hown
        exact nomatch hown
      · rw [hown', Option.some.injEq] at hown
        exact hj hown.symm
    · unfold Cell.visit at hown ⊢
      split at hown
      · exact absurd (Option.some.inj hown).symm hj
      · rw [if_neg (by assumption)]
  chosen group h := .inl (cell.committed_visit n c ▸ h)
  stamp s h := .inl (cell.committed_visit n c ▸ h)

/-- A row whose changes another call gives up. -/
theorem Beside.rollback {n j : ℕ} (hj : j ≠ n) (cell : Cell Key Row) :
    K.Beside j [] cell (cell.rollback n) where
  key := cell.key_rollback n
  mine := by
    intro h
    unfold Cell.rollback at h ⊢
    split at h
    · rename_i hown
      exfalso
      rcases h with h | h
      · rw [hown, Option.some.injEq] at h
        exact hj h.symm
      · exact nomatch h
    · rw [if_neg (by assumption)]
  chosen group h := .inl (cell.committed_rollback n ▸ h)
  stamp s h := .inl (cell.committed_rollback n ▸ h)

/-- A row whose changes another call commits, in a phase in which it may. -/
theorem Beside.commit {n j : ℕ} (hj : j ≠ n) {cell : Cell Key Row}
    (hallows : (K.monitor sch plan).allows phase .commit)
    (hholds : cell.owner = some n → K.Holds cell phase) :
    K.Beside j phase.publishes cell (cell.commit n) := by
  by_cases hown : cell.owner = some n
  · have hcommit : (cell.commit n).committed = cell.trail := by
      rw [Cell.commit, if_pos hown]
    have hpending : (cell.commit n).owner = none := by
      rw [Cell.commit, if_pos hown]
      rfl
    have hholds := hholds hown
    refine ⟨cell.key_commit n, ?_, ?_, ?_⟩
    · rintro (h | h)
      · rw [hown, Option.some.injEq] at h
        exact absurd h.symm hj
      · rw [hpending] at h
        cases h
    · intro group h
      rw [hcommit] at h
      cases phase with
      | reading reads => exact hholds.elim
      | editing =>
        rcases hholds.chosen with hnone | hsame
        · rw [hnone] at h
          cases h
        · exact .inl (hsame ▸ h)
      | retiring target group reads => exact hallows.elim
      | promoting target group' reads =>
        rcases hholds with hretired | hpromoted
        · rw [hretired.chosen] at h
          cases h
        · rcases hpromoted.chosen with hnone | hsome
          · rw [hnone] at h
            cases h
          · rw [hsome, Option.some.injEq] at h
            rw [hpromoted.key, h]
            exact .inr List.mem_cons_self
      | broken => exact hallows.elim
    · intro s h
      rw [hcommit] at h
      cases phase with
      | reading reads => exact hholds.elim
      | editing => exact .inl (hholds.stamp ▸ h)
      | retiring target group reads => exact hallows.elim
      | promoting target group' reads =>
        rcases hholds with hretired | hpromoted
        · exact .inl (hretired.stamp ▸ h)
        · exact .inr ⟨group', hpromoted.key ▸ List.mem_cons_self⟩
      | broken => exact hallows.elim
  · have hsame : cell.commit n = cell := by rw [Cell.commit, if_neg hown]
    rw [hsame]
    exact ⟨rfl, fun _ => rfl, fun _ h => .inl h, fun _ h => .inl h⟩

/-- What fits a call still fits it after the moves of the others. -/
theorem Fits.beside {j : ℕ} {left : List ℕ} {since es : List (Key × Group)}
    {cells cells' : List (Cell Key Row)} (h : K.Fits sch j phase left since cells)
    (hcells : ∀ (i : ℕ) (cell' : Cell Key Row), cells'[i]? = some cell' →
      (∃ cell, cells[i]? = some cell ∧ K.Beside j es cell cell') ∨
      (cell'.owner ≠ some j ∧ cell'.committed = [])) :
    K.Fits sch j phase left (es ++ since) cells' where
  holds i cell' hi hown := by
    rcases hcells i cell' hi with ⟨cell, hcell, hbeside⟩ | ⟨hother, -⟩
    · have hsame := hbeside.mine (.inr hown)
      rw [hsame] at hown ⊢
      exact h.holds i cell hcell hown
    · exact absurd hown hother
  covers target group htakes i cell' hi hchosen hkey := by
    rcases hcells i cell' hi with ⟨cell, hcell, hbeside⟩ | ⟨-, hnil⟩
    · rw [hbeside.key] at hkey ⊢
      rcases hbeside.chosen group hchosen with hchosen | hmem
      · rcases h.covers target group htakes i cell hcell hchosen hkey with hleft | hown | hmem
        · exact .inl hleft
        · rw [hbeside.mine (.inl hown)]
          exact .inr (.inl hown)
        · exact .inr (.inr (List.mem_append_right _ hmem))
      · exact .inr (.inr (List.mem_append_left _ hmem))
    · rw [hnil] at hchosen
      exact nomatch hchosen
  bounded hstamped hreads i cell' s hi hstamp := by
    rcases hcells i cell' hi with ⟨cell, hcell, hbeside⟩ | ⟨-, hnil⟩
    · rw [hbeside.key]
      rcases hbeside.stamp s hstamp with hstamp | ⟨group, hmem⟩
      · rcases h.bounded hstamped hreads i cell s hcell hstamp with hle | ⟨group, hmem⟩
        · exact .inl hle
        · exact .inr ⟨group, List.mem_append_right _ hmem⟩
      · exact .inr ⟨group, List.mem_append_left _ hmem⟩
    · rw [hnil] at hstamp
      exact nomatch hstamp
  aimed := h.aimed

/-! ### The moves of the call itself -/

section Own

variable {n : ℕ} {left : List ℕ} {since : List (Key × Group)} {cells : List (Cell Key Row)}
  {Init : Row → Prop}

theorem fits_broken : K.Fits sch n .broken left since cells where
  holds _ _ _ _ := trivial
  covers _ _ htakes := nomatch htakes
  bounded _ hreads := absurd rfl hreads
  aimed _ _ htakes := nomatch htakes

theorem fits_between
    (hfree : ∀ (i : ℕ) (cell : Cell Key Row), cells[i]? = some cell → cell.owner ≠ some n) :
    K.Fits sch n (.reading []) left since cells where
  holds i cell hi hown := hfree i cell hi hown
  covers _ _ htakes := nomatch htakes
  bounded _ hreads := absurd rfl hreads
  aimed _ _ htakes := nomatch htakes

theorem owner_commit_ne (cell : Cell Key Row) : (cell.commit n).owner ≠ some n := by
  unfold Cell.commit
  split
  · exact fun h => nomatch h
  · assumption

theorem owner_rollback_ne (cell : Cell Key Row) : (cell.rollback n).owner ≠ some n := by
  unfold Cell.rollback
  split
  · exact fun h => nomatch h
  · assumption

theorem fits_commit : K.Fits sch n (.reading []) left since (cells.map (Cell.commit n)) := by
  refine fits_between (fun i cell hi => ?_)
  rw [List.getElem?_map] at hi
  obtain ⟨cell₀, -, rfl⟩ := Option.map_eq_some_iff.mp hi
  exact owner_commit_ne cell₀

theorem fits_rollback : K.Fits sch n (.reading []) left since (cells.map (Cell.rollback n)) := by
  refine fits_between (fun i cell hi => ?_)
  rw [List.getElem?_map] at hi
  obtain ⟨cell₀, -, rfl⟩ := Option.map_eq_some_iff.mp hi
  exact owner_rollback_ne cell₀

/-- A read widens what the call knows: its window opens with it. -/
theorem fits_read {reads : List (List Row)} (h : K.Fits sch n (.reading reads) left since cells)
    {since' : List (Key × Group)} :
    K.Fits sch n (.reading (visibleRows n cells :: reads)) left since' cells where
  holds := h.holds
  covers _ _ htakes := nomatch htakes
  bounded _ _ i cell s hi hstamp := by
    -- the call holds no lock, and reads the committed rows
    obtain ⟨r, hr, hs⟩ := Option.bind_eq_some_iff.mp hstamp
    have hvisible : cell.visible n = some r := by
      rw [Cell.visible, if_neg (h.holds i cell hi)]
      exact hr
    exact .inl (K.le_largest _ r s
      (List.mem_filterMap.mpr ⟨cell, List.mem_of_getElem? hi, hvisible⟩) hs)
  aimed _ _ htakes := nomatch htakes

/-- An `INSERT` of a row that is not chosen. -/
theorem fits_insert {reads : List (List Row)} (h : K.Fits sch n (.reading reads) left since cells)
    {row : Row} (hrow : K.chosen row = none ∧ K.stamp row = none) {left' : List ℕ}
    {since' : List (Key × Group)} :
    K.Fits sch n .editing left' since' (cells ++
      [{ key := sch.key row, committed := [], pending := [⟨some n, some row⟩] }]) where
  holds i cell hi hown := by
    rcases Nat.lt_or_ge i cells.length with hlt | hge
    · rw [List.getElem?_append_left hlt] at hi
      exact (h.holds i cell hi hown).elim
    · rw [List.getElem?_append_right hge] at hi
      have hcell := List.mem_of_getElem? hi
      rw [List.mem_singleton] at hcell
      subst hcell
      exact ⟨.inl hrow.1, hrow.2⟩
  covers _ _ htakes := nomatch htakes
  bounded _ hreads := absurd rfl hreads
  aimed _ _ htakes := nomatch htakes

/-- The call starts an `UPDATE`. -/
theorem fits_start (hsound : SoundCells sch Init (fun _ => K.Stays sch) cells)
    {phase' : Phase Key Row Group}
    (hedits : K.Edits sch phase c phase') (h : K.Fits sch n phase (phase.left none) since cells)
    {since' : List (Key × Group)}
    (hsince : K.stamped = true ∨ phase.takes ≠ none → since' = since) :
    K.Fits sch n phase' (phase'.left (some (c, targets n c cells))) since' cells := by
  cases hedits with
  | mild reads _ _ =>
    exact ⟨fun i cell hi hown => (h.holds i cell hi hown).elim,
      (fun _ _ htakes => nomatch htakes), fun _ hreads => absurd rfl hreads,
      fun _ _ htakes => nomatch htakes⟩
  | retire reads _ target group haims hretires =>
    refine ⟨fun i cell hi hown => (h.holds i cell hi hown).elim, ?_, ?_, ?_⟩
    · rintro _ _ ⟨⟩ i cell hi hchosen hkey
      -- the call holds no lock: it aims at every committed row that is chosen
      obtain ⟨r, hr, hchosen⟩ := Option.bind_eq_some_iff.mp hchosen
      have hvisible : cell.visible n = some r := by
        rw [Cell.visible, if_neg (h.holds i cell hi)]
        exact hr
      have hrkey := (hsound.sound cell (List.mem_of_getElem? hi)).key_of_committed hr
      have htargeted : targeted n c cell = true := by
        rw [targeted, hvisible]
        exact hretires.reaches r hchosen (hrkey ▸ hkey)
      obtain ⟨hlt, rfl⟩ := List.getElem?_eq_some_iff.mp hi
      exact .inl ((List.mem_findIdxs_iff_pos_getElem hlt).mpr htargeted)
    · intro hstamped hreads i cell s hi hstamp
      rw [hsince (.inl hstamped)]
      exact h.bounded hstamped hreads i cell s hi hstamp
    · rintro _ _ ⟨⟩
      exact haims
  | promote reads _ target group _ =>
    rw [hsince (.inr (fun htakes => nomatch htakes))]
    exact ⟨fun i cell hi hown => .inl (h.holds i cell hi hown), h.covers, h.bounded,
      h.aimed⟩

/-- A row that no other call has changed: its newest version is the committed one, unless the
call holds its lock. -/
theorem trail_eq_committed {cell : Cell Key Row} (hfree : cell.FreeFor n)
    (hown : cell.owner ≠ some n) : cell.trail = cell.committed := by
  rcases hfree with hnil | hown'
  · rw [Cell.trail, hnil, List.nil_append]
  · exact absurd hown' hown

theorem calm_of_free {cell : Cell Key Row} (hfree : cell.FreeFor n)
    (h : cell.owner = some n → K.Calm cell) : K.Calm cell := by
  by_cases hown : cell.owner = some n
  · exact h hown
  · have htrail := trail_eq_committed hfree hown
    exact ⟨.inr (by rw [htrail]), by rw [htrail]⟩

/-- What the call makes of a row that its `UPDATE` is meant for. -/
theorem holds_write (hsound : SoundCells sch Init (fun _ => K.Stays sch) cells)
    {phase₀ : Phase Key Row Group}
    (hedits : K.Edits sch phase₀ c phase)
    (haimed : ∀ target group, phase.takes = some (target, group) →
      K.Aims sch phase.reads target group)
    (hknown : ∀ rows ∈ phase.reads, ∀ r ∈ rows, Known r cells) {i : ℕ} {cell : Cell Key Row}
    (hi : cells[i]? = some cell) (hfree : cell.FreeFor n)
    (hholds : cell.owner = some n → K.Holds cell phase) (hmatches : cell.Matches c) :
    K.Holds (cell.write n c) phase := by
  obtain ⟨r, hr, hguard⟩ := hmatches
  have hkey := (hsound.sound cell (List.mem_of_getElem? hi)).key_of_newest hr
  have hrow : newest (cell.write n c).trail = c.set r := by
    rw [Cell.trail_write, newest_cons, hr]
    rfl
  have hchosen : K.chosenOf cell.trail = K.chosen r := by rw [chosenOf, hr]; rfl
  have hstamp : K.stampOf cell.trail = K.stamp r := by rw [stampOf, hr]; rfl
  cases hedits with
  | mild reads _ hmild =>
    obtain ⟨r', hset, -, -, hs, hc⟩ := hmild r hguard
    have hcalm := calm_of_free hfree hholds
    have hchosen' : K.chosenOf (cell.write n c).trail = K.chosen r' := by
      rw [chosenOf, hrow, hset]; rfl
    have hstamp' : K.stampOf (cell.write n c).trail = K.stamp r' := by
      rw [stampOf, hrow, hset]; rfl
    refine ⟨?_, ?_⟩
    · rcases hc with hnone | hsame
      · exact .inl (hchosen'.trans hnone)
      · rw [hchosen', hsame, ← hchosen]
        exact hcalm.chosen
    · rw [hstamp', hs, ← hstamp]
      exact hcalm.stamp
  | retire reads _ target group haims hretires =>
    obtain ⟨hne, r', hset, -, -, hs, hc⟩ := hretires.retires r hguard
    have hchosen' : K.chosenOf (cell.write n c).trail = K.chosen r' := by
      rw [chosenOf, hrow, hset]; rfl
    have hstamp' : K.stampOf (cell.write n c).trail = K.stamp r' := by
      rw [stampOf, hrow, hset]; rfl
    refine ⟨hkey ▸ hne, hchosen'.trans hc, ?_⟩
    rw [hstamp', hs, ← hstamp]
    exact (calm_of_free hfree (fun hown => ⟨.inl (hholds hown).chosen, (hholds hown).stamp⟩)).stamp
  | promote reads _ target group hpromotes =>
    obtain ⟨heq, r', hset, -, -, hc, hs⟩ := hpromotes r hguard
    -- the row has the group that the call has read
    obtain ⟨rows, hrows, r₀, hr₀, hkey₀, hhome₀⟩ := haimed target group rfl
    have hhome : K.home r = group :=
      (home_of_known hsound (hknown rows hrows r₀ hr₀) (List.mem_of_getElem? hi)
        (hkey₀.trans (heq.symm.trans hkey)) hr).trans hhome₀
    rw [hhome] at hc
    have hchosen' : K.chosenOf (cell.write n c).trail = K.chosen r' := by
      rw [chosenOf, hrow, hset]; rfl
    have hstamp' : K.stampOf (cell.write n c).trail = K.stamp r' := by
      rw [stampOf, hrow, hset]; rfl
    refine .inr ⟨hkey ▸ heq, hchosen' ▸ hc, ?_⟩
    rcases hs with hs | hs
    · rw [hstamp', hs, ← hstamp]
      by_cases hown : cell.owner = some n
      · rcases hholds hown with hretired | hpromoted
        · exact .inl hretired.stamp
        · exact hpromoted.stamp
      · rw [trail_eq_committed hfree hown]
        exact .inl rfl
    · exact .inr (hstamp'.trans hs)

/-- The call visits a row. -/
theorem fits_visit (hsound : SoundCells sch Init (fun _ => K.Stays sch) cells)
    {phase₀ : Phase Key Row Group}
    (hedits : K.Edits sch phase₀ c phase)
    (hknown : ∀ rows ∈ phase.reads, ∀ r ∈ rows, Known r cells) {i : ℕ} {rest : List ℕ}
    {cell : Cell Key Row}
    (hi : cells[i]? = some cell) (hfree : cell.FreeFor n)
    (h : K.Fits sch n phase (phase.left (some (c, i :: rest))) since cells) :
    K.Fits sch n phase (phase.left (some (c, rest))) since (cells.set i (cell.visit n c)) := by
  have hlt := (List.getElem?_eq_some_iff.mp hi).1
  refine ⟨?_, ?_, ?_, h.aimed⟩
  · intro k cell' hk hown
    by_cases hki : k = i
    · subst hki
      rw [List.getElem?_set_self hlt, Option.some.injEq] at hk
      subst hk
      unfold Cell.visit at hown ⊢
      split
      · exact holds_write hsound hedits h.aimed hknown hi hfree (h.holds k cell hi) (by assumption)
      · rw [if_neg (by assumption)] at hown
        exact h.holds k cell hi hown
    · rw [List.getElem?_set_ne (Ne.symm hki)] at hk
      exact h.holds k cell' hk hown
  · intro target group htakes k cell' hk hchosen hkey
    by_cases hki : k = i
    · subst hki
      rw [List.getElem?_set_self hlt, Option.some.injEq] at hk
      subst hk
      rw [Cell.committed_visit] at hchosen
      rw [Cell.key_visit] at hkey ⊢
      by_cases hown : cell.owner = some n
      · refine .inr (.inl ?_)
        unfold Cell.visit
        split
        · rfl
        · exact hown
      · cases hedits with
        | mild reads _ _ => cases htakes
        | retire reads _ target' group' _ hretires =>
          cases htakes
          -- a chosen row that nobody has changed is what the call retires
          obtain ⟨r, hr, hc⟩ := Option.bind_eq_some_iff.mp hchosen
          have htrail := trail_eq_committed hfree hown
          have hrkey := (hsound.sound cell (List.mem_of_getElem? hi)).key_of_committed hr
          have hmatches : cell.Matches c :=
            ⟨r, htrail ▸ hr, hretires.reaches r hc (hrkey ▸ hkey)⟩
          rw [Cell.visit, if_pos hmatches]
          exact .inr (.inl rfl)
        | promote reads _ target' group' _ =>
          rcases h.covers target group htakes k cell hi hchosen hkey with hleft | hown' | hmem
          · exact absurd hleft List.not_mem_nil
          · exact absurd hown' hown
          · exact .inr (.inr hmem)
    · rw [List.getElem?_set_ne (Ne.symm hki)] at hk
      rcases h.covers target group htakes k cell' hk hchosen hkey with hleft | hown | hmem
      · refine .inl ?_
        cases phase with
        | retiring _ _ _ => exact (List.mem_cons.mp hleft).resolve_left hki
        | _ => exact hleft
      · exact .inr (.inl hown)
      · exact .inr (.inr hmem)
  · intro hstamped hreads k cell' s hk hstamp
    by_cases hki : k = i
    · subst hki
      rw [List.getElem?_set_self hlt, Option.some.injEq] at hk
      subst hk
      rw [Cell.committed_visit] at hstamp
      rw [Cell.key_visit]
      exact h.bounded hstamped hreads k cell s hi hstamp
    · rw [List.getElem?_set_ne (Ne.symm hki)] at hk
      exact h.bounded hstamped hreads k cell' s hk hstamp

end Own

/-! ## Turns -/

section Turns

theorem after_error (s : Stmt Row) (e : ε) (durable : Bool) :
    (K.monitor sch plan).after phase (.answers s (.error e) durable) = .broken := by
  cases s <;> rfl

variable [DecidableEq Key] {n : ℕ} {scan scan' : Option (Change Row × List ℕ)}
  {cells cells' : List (Cell Key Row)} {ev : Event Row ε} {l : Takeovers Key Group}
  {Init : Row → Prop}

/-- The takeovers that a move makes durable. -/
def published (phase : Phase Key Row Group) : Event Row ε → List (Key × Group)
  | .answers .commit _ true => phase.publishes
  | _ => []

/-- **The phase of the call of a move fits the cells after the move.** -/
theorem Fits.turn (hsound : SoundCells sch Init (fun _ => K.Stays sch) cells)
    (hturn : Turn sch (K.monitor sch plan) n cells scan phase ev cells' scan')
    (h : K.Fits sch n phase (phase.left scan) (l.since n) cells)
    (hknown : ∀ rows ∈ phase.reads, ∀ r ∈ rows, Known r cells) :
    K.Fits sch n ((K.monitor sch plan).after phase ev)
      (((K.monitor sch plan).after phase ev).left scan') ((K.note l n phase ev).since n)
      cells' := by
  cases hturn with
  | idle => exact h
  | starts c hscan hallows =>
    subst hscan
    refine fits_start hsound (edits_of_allows hallows) h (fun hwindow => ?_)
    cases phase with
    | reading reads =>
      rcases hwindow with hstamped | htakes
      · unfold note
        dsimp only
        rw [if_pos hstamped]
      · exact absurd rfl htakes
    | _ => rfl
  | visits c i rest cell phase₀ hscan hallows hphase hcell hfree =>
    subst hscan hphase
    exact fits_visit hsound (edits_of_allows hallows) hknown hcell hfree h
  | finishes c count hscan =>
    subst hscan
    cases phase with
    | _ => exact h
  | replies s reply _ hscan hallows hchange hanswer =>
    subst hscan
    cases s with
    | select =>
      cases hanswer
      cases phase with
      | reading reads => exact fits_read h
      | _ => exact h
    | step =>
      cases hanswer
      cases phase with
      | _ => exact h
    | insert row =>
      cases phase with
      | reading reads =>
        unfold Stmt.answer at hanswer
        dsimp only at hanswer
        split at hanswer
        · cases hanswer
          exact fits_insert h hallows
        · exact nomatch hanswer
      | editing => exact hallows.elim
      | retiring => exact hallows.elim
      | promoting => exact hallows.elim
      | broken => exact hallows.elim
    | commit =>
      cases hanswer
      cases phase with
      | _ => exact fits_commit
    | rollback =>
      cases hanswer
      cases phase with
      | _ => exact fits_rollback
    | change c => exact absurd rfl (hchange c)
  | fails s e =>
    rw [after_error]
    exact fits_broken
  | drops s e =>
    rw [after_error]
    exact fits_broken
  | loses e => exact fits_broken

/-- What the call has read is known after the move. -/
theorem Fits.known (hturn : Turn sch (K.monitor sch plan) n cells scan phase ev cells' scan')
    (h : K.Fits sch n phase (phase.left scan) (l.since n) cells)
    (hknown : ∀ rows ∈ phase.reads, ∀ r ∈ rows, Known r cells)
    (hevolves : Evolves sch n (fun _ => True) cells cells') :
    ∀ rows ∈ ((K.monitor sch plan).after phase ev).reads, ∀ r ∈ rows, Known r cells' := by
  have hkeep : ∀ phase' : Phase Key Row Group, phase'.reads = phase.reads ∨ phase'.reads = [] →
      ∀ rows ∈ phase'.reads, ∀ r ∈ rows, Known r cells' := by
    intro phase' hreads rows hrows r hr
    rcases hreads with hsame | hnil
    · rw [hsame] at hrows
      exact (hknown rows hrows r hr).evolves hevolves
    · rw [hnil] at hrows
      exact nomatch hrows
  cases hturn with
  | idle => exact hkeep _ (.inl rfl)
  | starts c hscan hallows => exact hkeep _ (edits_of_allows hallows).reads
  | visits c i rest cell phase₀ hscan hallows hphase hcell hfree => exact hkeep _ (.inl rfl)
  | finishes c count hscan => exact hkeep _ (.inl rfl)
  | replies s reply _ hscan hallows hchange hanswer =>
    cases s with
    | select =>
      cases hanswer
      cases phase with
      | reading reads =>
        intro rows hrows r hr
        rcases List.mem_cons.mp hrows with rfl | hrows
        · -- the call holds no lock, and reads the committed rows
          obtain ⟨cell, hcell, hvisible⟩ := List.mem_filterMap.mp hr
          obtain ⟨i, hi⟩ := List.mem_iff_getElem?.mp hcell
          rw [Cell.visible, if_neg (h.holds i cell hi)] at hvisible
          exact ⟨cell, hcell, mem_of_newest hvisible⟩
        · exact hknown rows hrows r hr
      | _ => exact hkeep _ (.inl rfl)
    | step => cases phase <;> exact hkeep _ (.inl rfl)
    | insert row =>
      cases phase with
      | reading => exact hkeep _ (.inr rfl)
      | _ => exact hkeep _ (.inl rfl)
    | commit => cases phase <;> exact hkeep _ (.inr rfl)
    | rollback => cases phase <;> exact hkeep _ (.inr rfl)
    | change c => exact absurd rfl (hchange c)
  | fails s e =>
    rw [after_error]
    exact hkeep _ (.inr rfl)
  | drops s e =>
    rw [after_error]
    exact hkeep _ (.inr rfl)
  | loses e => exact hkeep _ (.inr rfl)

/-- **What a move does to the cells, as another call sees it.** -/
theorem Beside.turn (hturn : Turn sch (K.monitor sch plan) n cells scan phase ev cells' scan')
    (hholds : ∀ (i : ℕ) (cell : Cell Key Row), cells[i]? = some cell → cell.owner = some n →
      K.Holds cell phase) {j : ℕ} (hj : j ≠ n) {i : ℕ} {cell' : Cell Key Row}
    (hi : cells'[i]? = some cell') :
    (∃ cell, cells[i]? = some cell ∧ K.Beside j (published phase ev) cell cell') ∨
      (cell'.owner ≠ some j ∧ cell'.committed = []) := by
  have hkeep : cells[i]? = some cell' →
      (∃ cell, cells[i]? = some cell ∧ K.Beside j [] cell cell') ∨
        (cell'.owner ≠ some j ∧ cell'.committed = []) :=
    fun hi => .inl ⟨cell', hi, .refl j cell'⟩
  have hcommit : (K.monitor sch plan).allows phase .commit →
      (cells.map (Cell.commit n))[i]? = some cell' →
      (∃ cell, cells[i]? = some cell ∧ K.Beside j phase.publishes cell cell') ∨
        (cell'.owner ≠ some j ∧ cell'.committed = []) := by
    intro hallows hi
    rw [List.getElem?_map] at hi
    obtain ⟨cell, hcell, rfl⟩ := Option.map_eq_some_iff.mp hi
    exact .inl ⟨cell, hcell, .commit hj hallows (hholds i cell hcell)⟩
  have hrollback : (cells.map (Cell.rollback n))[i]? = some cell' →
      (∃ cell, cells[i]? = some cell ∧ K.Beside j [] cell cell') ∨
        (cell'.owner ≠ some j ∧ cell'.committed = []) := by
    intro hi
    rw [List.getElem?_map] at hi
    obtain ⟨cell, hcell, rfl⟩ := Option.map_eq_some_iff.mp hi
    exact .inl ⟨cell, hcell, .rollback hj cell⟩
  cases hturn with
  | idle => exact hkeep hi
  | starts c hscan hallows => exact hkeep hi
  | visits c k rest cell phase₀ hscan hallows hphase hcell hfree =>
    by_cases hik : i = k
    · subst hik
      rw [List.getElem?_set_self (List.getElem?_eq_some_iff.mp hcell).1, Option.some.injEq] at hi
      subst hi
      exact .inl ⟨cell, hcell, .visit hj c hfree⟩
    · rw [List.getElem?_set_ne (Ne.symm hik)] at hi
      exact hkeep hi
  | finishes c count hscan => exact hkeep hi
  | replies s reply _ hscan hallows hchange hanswer =>
    cases s with
    | select => cases hanswer; exact hkeep hi
    | step => cases hanswer; exact hkeep hi
    | insert row =>
      unfold Stmt.answer at hanswer
      dsimp only at hanswer
      split at hanswer
      · cases hanswer
        rcases Nat.lt_or_ge i cells.length with hlt | hge
        · rw [List.getElem?_append_left hlt] at hi
          exact hkeep hi
        · rw [List.getElem?_append_right hge] at hi
          have hcell := List.mem_of_getElem? hi
          rw [List.mem_singleton] at hcell
          subst hcell
          exact .inr ⟨fun hown => hj (Option.some.inj hown).symm, rfl⟩
      · exact nomatch hanswer
    | commit => cases hanswer; exact hcommit hallows hi
    | rollback => cases hanswer; exact hrollback hi
    | change c => exact absurd rfl (hchange c)
  | fails s e => cases s <;> exact hkeep hi
  | drops s e => cases s <;> exact hrollback hi
  | loses e hscan hallows => exact hcommit hallows hi

omit [DecidableEq Key] in
/-- The windows after a move: a window opens, or takeovers become durable. -/
theorem note_cases (l : Takeovers Key Group) (n : ℕ) (phase : Phase Key Row Group)
    (ev : Event Row ε) : (K.note l n phase ev = l.reopen n ∧ published phase ev = []) ∨
      K.note l n phase ev = l.publish (published phase ev) := by
  cases ev with
  | idle => exact .inr rfl
  | visits i => exact .inr rfl
  | starts c =>
    cases phase with
    | reading reads =>
      unfold note
      dsimp only
      split
      · exact .inr rfl
      · exact .inl ⟨rfl, rfl⟩
    | _ => exact .inr rfl
  | answers s r durable =>
    cases s with
    | select =>
      cases r with
      | error e => exact .inr rfl
      | ok reply =>
        cases phase with
        | reading reads =>
          unfold note
          dsimp only
          split
          · exact .inl ⟨rfl, rfl⟩
          · exact .inr rfl
        | _ => exact .inr rfl
    | commit => cases durable <;> exact .inr rfl
    | _ => exact .inr rfl

omit [DecidableEq Key] in
/-- The window of another call after a move. -/
theorem since_note {j : ℕ} (hj : j ≠ n) (hopened : l.opened j ≤ l.log.length) :
    (K.note l n phase ev).since j = published phase ev ++ l.since j := by
  rcases note_cases (K := K) l n phase ev with ⟨hnote, hnone⟩ | hnote
  · rw [hnote, hnone, Takeovers.since_reopen_of_ne hj, List.nil_append]
  · rw [hnote, Takeovers.since_publish hopened]

omit [DecidableEq Key] in
theorem opened_note (hopened : ∀ j, l.opened j ≤ l.log.length) (j : ℕ) :
    (K.note l n phase ev).opened j ≤ (K.note l n phase ev).log.length := by
  rcases note_cases (K := K) l n phase ev with ⟨hnote, -⟩ | hnote
  · rw [hnote]
    by_cases hj : j = n
    · subst hj
      exact Nat.le_of_eq (Function.update_self _ _ _)
    · exact Nat.le_trans (Nat.le_of_eq (Function.update_of_ne hj _ _)) (hopened j)
  · rw [hnote]
    refine Nat.le_trans (hopened j) ?_
    show l.log.length ≤ (published phase ev ++ l.log).length
    rw [List.length_append]
    exact Nat.le_add_left _ _

end Turns

/-! ## No group has two chosen rows -/

variable (K) in
/-- No group has two chosen rows. -/
def Sole (cells : List (Cell Key Row)) : Prop :=
  ∀ cell ∈ cells, ∀ cell' ∈ cells, ∀ group, K.chosenOf cell.committed = some group →
    K.chosenOf cell'.committed = some group → cell.key = cell'.key

variable (K) in
/-- No two rows have one stamp. -/
def Distinct (cells : List (Cell Key Row)) : Prop :=
  ∀ cell ∈ cells, ∀ cell' ∈ cells, ∀ s, K.stampOf cell.committed = some s →
    K.stampOf cell'.committed = some s → cell.key = cell'.key

section Commits

variable {n : ℕ} {since : List (Key × Group)} {cells cells' : List (Cell Key Row)}
  {target : Key} {group : Group} {reads : List (List Row)}

/-- The rows are chosen and stamped as they were before. -/
theorem sole_of_beside {j : ℕ}
    (hcells : ∀ (i : ℕ) (cell' : Cell Key Row), cells'[i]? = some cell' →
      (∃ cell, cells[i]? = some cell ∧ K.Beside j [] cell cell') ∨
      (cell'.owner ≠ some j ∧ cell'.committed = [])) :
    (K.Sole cells → K.Sole cells') ∧ (K.Distinct cells → K.Distinct cells') := by
  have horigin : ∀ cell' ∈ cells', (∃ cell ∈ cells, K.Beside j [] cell cell') ∨
      cell'.committed = [] := by
    intro cell' hcell'
    obtain ⟨i, hi⟩ := List.mem_iff_getElem?.mp hcell'
    rcases hcells i cell' hi with ⟨cell, hcell, hbeside⟩ | ⟨-, hnil⟩
    · exact .inl ⟨cell, List.mem_of_getElem? hcell, hbeside⟩
    · exact .inr hnil
  have hchosen : ∀ cell' ∈ cells', ∀ group, K.chosenOf cell'.committed = some group →
      ∃ cell ∈ cells, cell.key = cell'.key ∧ K.chosenOf cell.committed = some group := by
    intro cell' hcell' group h
    rcases horigin cell' hcell' with ⟨cell, hcell, hbeside⟩ | hnil
    · exact ⟨cell, hcell, hbeside.key.symm,
        (hbeside.chosen group h).resolve_right (fun hmem => nomatch hmem)⟩
    · rw [hnil] at h
      exact nomatch h
  have hstamp : ∀ cell' ∈ cells', ∀ s, K.stampOf cell'.committed = some s →
      ∃ cell ∈ cells, cell.key = cell'.key ∧ K.stampOf cell.committed = some s := by
    intro cell' hcell' s h
    rcases horigin cell' hcell' with ⟨cell, hcell, hbeside⟩ | hnil
    · refine ⟨cell, hcell, hbeside.key.symm, (hbeside.stamp s h).resolve_right ?_⟩
      rintro ⟨group, hmem⟩
      exact nomatch hmem
    · rw [hnil] at h
      exact nomatch h
  refine ⟨fun hsole c₁ hc₁ c₂ hc₂ group h₁ h₂ => ?_, fun hdistinct c₁ hc₁ c₂ hc₂ s h₁ h₂ => ?_⟩
  · obtain ⟨d₁, hd₁, hk₁, h₁⟩ := hchosen c₁ hc₁ group h₁
    obtain ⟨d₂, hd₂, hk₂, h₂⟩ := hchosen c₂ hc₂ group h₂
    rw [← hk₁, ← hk₂]
    exact hsole d₁ hd₁ d₂ hd₂ group h₁ h₂
  · obtain ⟨d₁, hd₁, hk₁, h₁⟩ := hstamp c₁ hc₁ s h₁
    obtain ⟨d₂, hd₂, hk₂, h₂⟩ := hstamp c₂ hc₂ s h₂
    rw [← hk₁, ← hk₂]
    exact hdistinct d₁ hd₁ d₂ hd₂ s h₁ h₂

/-- After a takeover in time the target is the only row that can be chosen in its group. -/
theorem chosen_commit (h : K.Fits sch n (.promoting target group reads) [] since cells)
    (htime : ∀ e ∈ since, e.2 = group → e.1 = target) {cell : Cell Key Row}
    (hcell : cell ∈ cells) {group' : Group}
    (hchosen : K.chosenOf (cell.commit n).committed = some group') :
    (group' = group ∧ cell.key = target) ∨ K.chosenOf cell.committed = some group' ∧
      group' ≠ group := by
  obtain ⟨i, hi⟩ := List.mem_iff_getElem?.mp hcell
  by_cases hown : cell.owner = some n
  · rw [Cell.commit, if_pos hown] at hchosen
    have hchosen : K.chosenOf cell.trail = some group' := hchosen
    rcases h.holds i cell hi hown with hretired | hpromoted
    · rw [hretired.chosen] at hchosen
      cases hchosen
    · rcases hpromoted.chosen with hnone | hsome
      · rw [hnone] at hchosen
        cases hchosen
      · rw [hsome, Option.some.injEq] at hchosen
        exact .inl ⟨hchosen.symm, hpromoted.key⟩
  · rw [Cell.commit, if_neg hown] at hchosen
    by_cases hgroup : group' = group
    · subst hgroup
      refine .inl ⟨rfl, ?_⟩
      by_contra hkey
      rcases h.covers target group' rfl i cell hi hchosen hkey with hleft | hown' | hmem
      · exact absurd hleft List.not_mem_nil
      · exact hown hown'
      · exact hkey (htime _ hmem rfl)
    · exact .inr ⟨hchosen, hgroup⟩

theorem sole_commit (h : K.Fits sch n (.promoting target group reads) [] since cells)
    (htime : ∀ e ∈ since, e.2 = group → e.1 = target) (hsole : K.Sole cells) :
    K.Sole (cells.map (Cell.commit n)) := by
  intro c₁ hc₁ c₂ hc₂ group' h₁ h₂
  obtain ⟨d₁, hd₁, rfl⟩ := List.mem_map.mp hc₁
  obtain ⟨d₂, hd₂, rfl⟩ := List.mem_map.mp hc₂
  rw [Cell.key_commit, Cell.key_commit]
  rcases chosen_commit h htime hd₁ h₁ with ⟨hg₁, hk₁⟩ | ⟨h₁, hg₁⟩
  · rcases chosen_commit h htime hd₂ h₂ with ⟨-, hk₂⟩ | ⟨-, hg₂⟩
    · rw [hk₁, hk₂]
    · exact absurd hg₁ hg₂
  · rcases chosen_commit h htime hd₂ h₂ with ⟨hg₂, -⟩ | ⟨h₂, -⟩
    · exact absurd hg₂ hg₁
    · exact hsole d₁ hd₁ d₂ hd₂ group' h₁ h₂

/-- After a takeover the stamps are those from before, but for the target's. -/
theorem stamp_commit (h : K.Fits sch n (.promoting target group reads) [] since cells)
    {cell : Cell Key Row} (hcell : cell ∈ cells) {s : ℤ}
    (hstamp : K.stampOf (cell.commit n).committed = some s) :
    K.stampOf cell.committed = some s ∨ (cell.key = target ∧ s = K.bound reads + 1) := by
  obtain ⟨i, hi⟩ := List.mem_iff_getElem?.mp hcell
  by_cases hown : cell.owner = some n
  · rw [Cell.commit, if_pos hown] at hstamp
    have hstamp : K.stampOf cell.trail = some s := hstamp
    rcases h.holds i cell hi hown with hretired | hpromoted
    · exact .inl (hretired.stamp ▸ hstamp)
    · rcases hpromoted.stamp with hsame | hnew
      · exact .inl (hsame ▸ hstamp)
      · rw [hnew, Option.some.injEq] at hstamp
        exact .inr ⟨hpromoted.key, hstamp.symm⟩
  · rw [Cell.commit, if_neg hown] at hstamp
    exact .inl hstamp

theorem distinct_commit [Subsingleton Group]
    (h : K.Fits sch n (.promoting target group reads) [] since cells)
    (htime : ∀ e ∈ since, e.2 = group → e.1 = target) (hstamped : K.stamped = true)
    (hdistinct : K.Distinct cells) : K.Distinct (cells.map (Cell.commit n)) := by
  have hreads : reads ≠ [] := by
    rintro rfl
    obtain ⟨rows, hrows, -⟩ := h.aimed target group rfl
    exact nomatch hrows
  -- the new stamp is above the stamps of all other rows
  have hbelow : ∀ cell ∈ cells, cell.key ≠ target → ∀ s, K.stampOf cell.committed = some s →
      s ≤ K.bound reads := by
    intro cell hcell hkey s hs
    obtain ⟨i, hi⟩ := List.mem_iff_getElem?.mp hcell
    rcases h.bounded hstamped hreads i cell s hi hs with hle | ⟨group', hmem⟩
    · exact hle
    · exact absurd (htime _ hmem (Subsingleton.elim _ _)) hkey
  intro c₁ hc₁ c₂ hc₂ s h₁ h₂
  obtain ⟨d₁, hd₁, rfl⟩ := List.mem_map.mp hc₁
  obtain ⟨d₂, hd₂, rfl⟩ := List.mem_map.mp hc₂
  rw [Cell.key_commit, Cell.key_commit]
  by_contra hne
  rcases stamp_commit h hd₁ h₁ with h₁ | ⟨hk₁, hs₁⟩
  · rcases stamp_commit h hd₂ h₂ with h₂ | ⟨hk₂, hs₂⟩
    · exact hne (hdistinct d₁ hd₁ d₂ hd₂ s h₁ h₂)
    · have := hbelow d₁ hd₁ (fun hk => hne (hk.trans hk₂.symm)) s h₁
      omega
  · rcases stamp_commit h hd₂ h₂ with h₂ | ⟨hk₂, -⟩
    · have := hbelow d₂ hd₂ (fun hk => hne (hk₁.trans hk.symm)) s h₂
      omega
    · exact hne (hk₁.trans hk₂.symm)

/-- A move that makes a takeover durable is a commit of a call that promotes. -/
theorem commits_of_published [DecidableEq Key] {scan scan' : Option (Change Row × List ℕ)}
    {ev : Event Row ε}
    (hturn : Turn sch (K.monitor sch plan) n cells scan phase ev cells' scan')
    (hpublished : published phase ev ≠ []) :
    (∃ target group reads, phase = .promoting target group reads ∧
      published phase ev = [(target, group)]) ∧ cells' = cells.map (Cell.commit n) := by
  have hphase : ∀ es, es = phase.publishes → es ≠ [] →
      ∃ target group reads, phase = .promoting target group reads ∧ es = [(target, group)] := by
    rintro _ rfl h
    cases phase with
    | promoting target group reads => exact ⟨target, group, reads, rfl, rfl⟩
    | _ => exact absurd rfl h
  cases hturn with
  | idle => exact absurd rfl hpublished
  | starts => exact absurd rfl hpublished
  | visits => exact absurd rfl hpublished
  | finishes => exact absurd rfl hpublished
  | replies s reply _ hscan hallows hchange hanswer =>
    cases s with
    | commit =>
      cases hanswer
      exact ⟨hphase _ rfl hpublished, rfl⟩
    | _ => exact absurd rfl hpublished
  | fails s e => cases s <;> exact absurd rfl hpublished
  | drops s e => cases s <;> exact absurd rfl hpublished
  | loses e => exact ⟨hphase _ rfl hpublished, rfl⟩

end Commits

/-! ## Runs -/

variable (sch) in
/-- When a call makes a takeover durable, no other row has taken over its group in its
window. -/
def InTime [DecidableEq Key]
    (x : Watched Key Row ε α (Phase Key Row Group) (Takeovers Key Group)) (m : Move ε) :
    Prop :=
  ∀ e ∈ published (x.ghosts m.call) (x.state.move sch m).1, ∀ e' ∈ x.ledger.since m.call,
    e'.2 = e.2 → e'.1 = e.1

instance [DecidableEq Key] [DecidableEq Group]
    (x : Watched Key Row ε α (Phase Key Row Group) (Takeovers Key Group)) (m : Move ε) :
    Decidable (InTime sch x m) :=
  inferInstanceAs (Decidable (∀ e ∈ _, ∀ e' ∈ _, _))

section Runs

variable {rows : List Row} {code : ℕ → Prog Row ε α}
  {plan : ℕ → List (List Row) → Option (Key × Group)}

variable (K sch rows code plan) in
/-- What any number of calls keep. -/
structure Orderly (x : Watched Key Row ε α (Phase Key Row Group) (Takeovers Key Group)) :
    Prop where
  reached : Reachable sch rows code x.state
  obeying : x.Obeying (K.watch sch plan)
  opened : ∀ n, x.ledger.opened n ≤ x.ledger.log.length
  fits : ∀ n, K.Fits sch n (x.ghosts n) ((x.ghosts n).left (x.state.calls n).underway)
    (x.ledger.since n) x.state.cells
  known : ∀ n, ∀ rows ∈ (x.ghosts n).reads, ∀ r ∈ rows, Known r x.state.cells
  sole : K.Sole x.state.cells
  distinct : K.stamped = true → Subsingleton Group → K.Distinct x.state.cells

variable (K) in
/-- Initially no group has two chosen rows and no two rows have one stamp. -/
structure Fair (sch : Schema Key Row ε) (rows : List Row) : Prop where
  nodup : (rows.map sch.key).Nodup
  sole : ∀ r ∈ rows, ∀ r' ∈ rows, ∀ group, K.chosen r = some group → K.chosen r' = some group →
    sch.key r = sch.key r'
  distinct : K.stamped = true → ∀ r ∈ rows, ∀ r' ∈ rows, ∀ s, K.stamp r = some s →
    K.stamp r' = some s → sch.key r = sch.key r'

/-- Calls that obey their monitors keep the cells sound. -/
theorem sound_of_reachable (hnodup : (rows.map sch.key).Nodup)
    (hcode : ∀ n, (code n).Obeys (K.monitor sch (plan n)) (fun _ _ => True) (.reading []))
    {σ : State Key Row ε α} (h : Reachable sch rows code σ) :
    SoundCells sch (fun _ => True) (fun _ => K.Stays sch) σ.cells :=
  (h.sound (fun _ r r' hstays => (hstays r r' rfl rfl).1) hnodup (fun _ _ => trivial)
    (fun n => (hcode n).issues (fun _ _ hallows => follows_of_allows hallows))).2

theorem Orderly.start (hfair : K.Fair sch rows)
    (hcode : ∀ n, (code n).Obeys (K.monitor sch (plan n)) (fun _ _ => True) (.reading [])) :
    K.Orderly sch rows code plan (.start sch rows code (fun _ => .reading []) {}) where
  reached := .refl
  obeying := hcode
  opened _ := Nat.le_refl _
  fits n := by
    refine fits_between (fun i cell hi hown => ?_)
    obtain ⟨row, -, rfl⟩ := List.mem_map.mp (List.mem_of_getElem? hi)
    exact nomatch hown
  known _ _ hrows := nomatch hrows
  sole := by
    intro c₁ hc₁ c₂ hc₂ group h₁ h₂
    obtain ⟨r₁, hr₁, rfl⟩ := List.mem_map.mp hc₁
    obtain ⟨r₂, hr₂, rfl⟩ := List.mem_map.mp hc₂
    exact hfair.sole r₁ hr₁ r₂ hr₂ group h₁ h₂
  distinct hstamped _ := by
    intro c₁ hc₁ c₂ hc₂ s h₁ h₂
    obtain ⟨r₁, hr₁, rfl⟩ := List.mem_map.mp hc₁
    obtain ⟨r₂, hr₂, rfl⟩ := List.mem_map.mp hc₂
    exact hfair.distinct hstamped r₁ hr₁ r₂ hr₂ s h₁ h₂

/-! ### What is committed -/

variable {x : Watched Key Row ε α (Phase Key Row Group) (Takeovers Key Group)}

/-- Committed rows with one key are one row. -/
theorem eq_of_key (hnodup : (rows.map sch.key).Nodup)
    (hcode : ∀ n, (code n).Obeys (K.monitor sch (plan n)) (fun _ _ => True) (.reading []))
    (h : K.Orderly sch rows code plan x) {r r' : Row}
    (hkey : ∀ cell ∈ x.state.cells, ∀ cell' ∈ x.state.cells, newest cell.committed = some r →
      newest cell'.committed = some r' → cell.key = cell'.key)
    (hr : r ∈ committedRows x.state.cells) (hr' : r' ∈ committedRows x.state.cells) : r = r' := by
  have hsound := sound_of_reachable hnodup hcode h.reached
  obtain ⟨cell, hcell, hrow⟩ := List.mem_filterMap.mp hr
  obtain ⟨cell', hcell', hrow'⟩ := List.mem_filterMap.mp hr'
  refine List.inj_on_of_nodup_map hsound.nodup_committedRows hr hr' ?_
  rw [(hsound.sound cell hcell).key_of_committed hrow,
    (hsound.sound cell' hcell').key_of_committed hrow']
  exact hkey cell hcell cell' hcell' hrow hrow'

/-- One committed row is chosen in a group. -/
theorem Orderly.eq_of_chosen (hnodup : (rows.map sch.key).Nodup)
    (hcode : ∀ n, (code n).Obeys (K.monitor sch (plan n)) (fun _ _ => True) (.reading []))
    (h : K.Orderly sch rows code plan x) {r r' : Row} (hr : r ∈ committedRows x.state.cells)
    (hr' : r' ∈ committedRows x.state.cells) {group : Group} (hchosen : K.chosen r = some group)
    (hchosen' : K.chosen r' = some group) : r = r' := by
  refine eq_of_key hnodup hcode h ?_ hr hr'
  intro cell hcell cell' hcell' hrow hrow'
  refine h.sole cell hcell cell' hcell' group ?_ ?_
  · rw [chosenOf, hrow]
    exact hchosen
  · rw [chosenOf, hrow']
    exact hchosen'

/-- One committed row has a stamp. -/
theorem Orderly.eq_of_stamp [Subsingleton Group] (hstamped : K.stamped = true)
    (hnodup : (rows.map sch.key).Nodup)
    (hcode : ∀ n, (code n).Obeys (K.monitor sch (plan n)) (fun _ _ => True) (.reading []))
    (h : K.Orderly sch rows code plan x) {r r' : Row} (hr : r ∈ committedRows x.state.cells)
    (hr' : r' ∈ committedRows x.state.cells) {s : ℤ} (hstamp : K.stamp r = some s)
    (hstamp' : K.stamp r' = some s) : r = r' := by
  refine eq_of_key hnodup hcode h ?_ hr hr'
  intro cell hcell cell' hcell' hrow hrow'
  refine h.distinct hstamped inferInstance cell hcell cell' hcell' s ?_ ?_
  · rw [stampOf, hrow]
    exact hstamp
  · rw [stampOf, hrow']
    exact hstamp'

/-! ### What a run keeps -/

variable [DecidableEq Key]

/-- **A move in time keeps the order.** -/
theorem Orderly.move (hfair : K.Fair sch rows)
    (hcode : ∀ n, (code n).Obeys (K.monitor sch (plan n)) (fun _ _ => True) (.reading []))
    (h : K.Orderly sch rows code plan x) {m : Move ε} (htime : InTime sch x m) :
    K.Orderly sch rows code plan (x.move sch (K.watch sch plan) m) := by
  have hsound := sound_of_reachable hfair.nodup hcode h.reached
  have hturn : Turn sch (K.monitor sch (plan m.call)) _ _ _ _ _ _ _ := h.obeying.turn m
  have hholds := (h.fits m.call).holds
  have hbeside : ∀ j, j ≠ m.call → ∀ (i : ℕ) (cell' : Cell Key Row),
      (x.move sch (K.watch sch plan) m).state.cells[i]? = some cell' →
      (∃ cell, x.state.cells[i]? = some cell ∧
        K.Beside j (published (x.ghosts m.call) (x.state.move sch m).1) cell cell') ∨
      (cell'.owner ≠ some j ∧ cell'.committed = []) :=
    fun j hj i cell' hi => Beside.turn hturn hholds hj hi
  have horder : K.Sole (x.move sch (K.watch sch plan) m).state.cells ∧
      (K.stamped = true → Subsingleton Group →
        K.Distinct (x.move sch (K.watch sch plan) m).state.cells) := by
    by_cases hpublished : published (x.ghosts m.call) (x.state.move sch m).1 = []
    · have hkeeps := hbeside (m.call + 1) (Nat.succ_ne_self _)
      rw [hpublished] at hkeeps
      obtain ⟨hsole, hdistinct⟩ := sole_of_beside hkeeps
      exact ⟨hsole h.sole, fun hstamped hgroup => hdistinct (h.distinct hstamped hgroup)⟩
    · obtain ⟨⟨target, group, reads, hphase, hevent⟩, hcells⟩ :=
        commits_of_published hturn hpublished
      have hfits := h.fits m.call
      rw [hphase] at hfits
      have htime : ∀ e ∈ x.ledger.since m.call, e.2 = group → e.1 = target := by
        intro e he hgroup
        refine htime (target, group) ?_ e he hgroup
        rw [hevent]
        exact List.mem_cons_self
      rw [hcells]
      refine ⟨sole_commit hfits htime h.sole, fun hstamped hgroup => ?_⟩
      exact distinct_commit hfits htime hstamped (h.distinct hstamped hgroup)
  have hevolves := (x.state.moved sch m).evolves
  refine ⟨h.reached.trans (x.state.moved sch m).reaches, h.obeying.move m, ?_, ?_, ?_, horder.1,
    horder.2⟩
  · exact fun n => opened_note h.opened n
  · intro n
    by_cases hn : n = m.call
    · subst hn
      rw [Watched.ghosts_move_self]
      exact (h.fits m.call).turn hsound hturn (h.known m.call)
    · rw [Watched.ghosts_move_of_ne x hn, Watched.calls_move_of_ne x hn]
      have hsince : (x.move sch (K.watch sch plan) m).ledger.since n
          = published (x.ghosts m.call) (x.state.move sch m).1 ++ x.ledger.since n :=
        since_note hn (h.opened n)
      rw [hsince]
      exact (h.fits n).beside (hbeside n hn)
  · intro n
    by_cases hn : n = m.call
    · subst hn
      rw [Watched.ghosts_move_self]
      exact (h.fits m.call).known hturn (h.known m.call) hevolves
    · rw [Watched.ghosts_move_of_ne x hn]
      exact fun rows hrows r hr => (h.known n rows hrows r hr).evolves hevolves

/-- **Takeovers in time keep the order**, in every run of any number of calls. -/
theorem Orderly.run (hfair : K.Fair sch rows)
    (hcode : ∀ n, (code n).Obeys (K.monitor sch (plan n)) (fun _ _ => True) (.reading []))
    {moves : List (Move ε)}
    (hmeets : (Watched.start sch rows code (fun _ => .reading []) {}).Meets sch
      (K.watch sch plan) (InTime sch) moves) :
    K.Orderly sch rows code plan ((Watched.start sch rows code (fun _ => .reading []) {}).run sch
      (K.watch sch plan) moves) :=
  Watched.run_keeps (fun _ _ hx htime => hx.move hfair hcode htime) (.start hfair hcode) hmeets

end Runs

end Contest

end Transaction

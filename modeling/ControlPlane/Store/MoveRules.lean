/-
# Monitored programs of the store

The statements of the store's programs under a monitor: what a session keeps to is read off
its body.
-/
import ControlPlane.Store.Schema
import ControlPlane.Takeover

namespace ControlPlane

open Transaction

variable {α G : Type} {M : Monitor Row G} {g : G}

/-- A `SELECT` gives some rows, or fails. -/
theorem obeys_fetchAll {Q : G → Except PyError (List Row) → Prop} (h : M.allows g .select)
    (hok : ∀ rows, Q (M.next g .select rows) (.ok rows))
    (herror : ∀ e g', M.Breaks g .select g' → Q g' (.error e)) : fetchAll.Obeys M Q g :=
  ⟨h, fun reply => hok reply.rows, herror⟩

theorem obeys_execute {c : Change Row} {Q : G → Except PyError ℕ → Prop}
    (h : M.allows g (.change c)) (hok : ∀ rows count, Q (M.next g (.change c) rows) (.ok count))
    (herror : ∀ e g', M.Breaks g (.change c) g' → Q g' (.error e)) : (execute c).Obeys M Q g :=
  ⟨h, fun reply => hok reply.rows reply.count, herror⟩

theorem obeys_insert {row : Row} {Q : G → Except PyError Unit → Prop}
    (h : M.allows g (.insert row)) (hok : ∀ rows, Q (M.next g (.insert row) rows) (.ok ()))
    (herror : ∀ e g', M.Breaks g (.insert row) g' → Q g' (.error e)) : (insert row).Obeys M Q g :=
  ⟨h, fun reply => hok reply.rows, herror⟩

theorem obeys_commit {Q : G → Except PyError Unit → Prop} (h : M.allows g .commit)
    (hok : ∀ rows, Q (M.next g .commit rows) (.ok ()))
    (herror : ∀ e g', M.Breaks g .commit g' → Q g' (.error e)) : commit.Obeys M Q g :=
  ⟨h, fun reply => hok reply.rows, herror⟩

theorem obeys_pythonStep {Q : G → Except PyError Unit → Prop} (h : M.allows g .step)
    (hok : ∀ rows, Q (M.next g .step rows) (.ok ()))
    (herror : ∀ e g', M.Breaks g .step g' → Q g' (.error e)) : pythonStep.Obeys M Q g :=
  ⟨h, fun reply => hok reply.rows, herror⟩

/-- A session commits after its body, and rolls back after an exception: `E` is where it does,
and `S` where it has committed. -/
theorem obeys_session {body : StoreM α} {Q S : G → α → Prop} {E : G → Prop}
    {R : G → Except PyError α → Prop}
    (h : body.Obeys M (fun g r => (∀ a, r = .ok a → Q g a) ∧ ∀ e, r = .error e → E g) g)
    (hcommit : ∀ g a, Q g a → M.allows g .commit ∧ (∀ rows, S (M.next g .commit rows) a) ∧
      ∀ g', M.Breaks g .commit g' → E g')
    (hrollback : ∀ g e, E g → M.allows g .rollback ∧
      (∀ rows, R (M.next g .rollback rows) (.error e)) ∧
      ∀ e' g', M.Breaks g .rollback g' → R g' (.error e'))
    (hstep : ∀ g a, S g a → M.allows g .step ∧ (∀ rows, R (M.next g .step rows) (.ok a)) ∧
      ∀ e g', M.Breaks g .step g' → R g' (.error e)) :
    (session body).Obeys M R g := by
  have hundo : ∀ g e, E g → (Prog.exec .rollback (fun _ => Prog.done (.error e)) :
      StoreM α).Obeys M (fun g r => (∀ a, r = .ok a → S g a) ∧ ∀ e, r = .error e →
        R g (.error e)) g := by
    intro g e hg
    obtain ⟨hallows, hnext, hbreaks⟩ := hrollback g e hg
    refine ⟨hallows, fun reply => ⟨fun a h => (nomatch h), ?_⟩, fun e' g' hg' => ?_⟩
    · rintro _ ⟨⟩
      exact hnext reply.rows
    · refine ⟨fun a h => (nomatch h), ?_⟩
      rintro _ ⟨⟩
      exact hbreaks e g' hg'
  refine Prog.obeys_bind (Q := fun g r => (∀ a, r = .ok a → S g a) ∧ ∀ e, r = .error e →
    R g (.error e)) ?_ ?_ (fun g e hg => hg.2 e rfl)
  · refine Prog.obeys_handle (Q := fun g r => (∀ a, r = .ok a → S g a) ∧ ∀ e, r = .error e →
      E g) ?_ ?_ (fun g e hg => hundo g e (hg.2 e rfl))
    · refine Prog.obeys_bind h (fun g a hg => ?_) ?_
      · obtain ⟨hallows, hnext, hbreaks⟩ := hcommit g a (hg.1 a rfl)
        refine ⟨hallows, fun reply => ⟨?_, fun e h => nomatch h⟩, fun e g' hg' => ?_⟩
        · rintro _ ⟨⟩
          exact hnext reply.rows
        · exact ⟨fun a h => (nomatch h), fun _ _ => hbreaks g' hg'⟩
      · exact fun g e hg => ⟨fun a h => (nomatch h), fun _ _ => hg.2 e rfl⟩
    · exact fun g a hg => ⟨hg.1, fun e h => nomatch h⟩
  · intro g a hg
    obtain ⟨hallows, hnext, hbreaks⟩ := hstep g a (hg.1 a rfl)
    refine Prog.obeys_bind (Q := fun g r => (∀ u, r = .ok u → R g (.ok a)) ∧
      ∀ e, r = .error e → R g (.error e)) (obeys_pythonStep hallows ?_ ?_) ?_ ?_
    · exact fun rows => ⟨fun _ _ => hnext rows, fun e h => nomatch h⟩
    · refine fun e g' hg' => ⟨fun u h => (nomatch h), ?_⟩
      rintro _ ⟨⟩
      exact hbreaks e g' hg'
    · exact fun g u hg => hg.1 u rfl
    · exact fun g e hg => hg.2 e rfl

/-! ## Sessions that take over -/

section Contest

variable {Group : Type} {K : Contest Row Group}
  {plan : List (List Row) → Option (RowKey × Group)} {phase : Phase RowKey Row Group}

/-- A session whose body ends where it may be committed leaves no transaction open when it
succeeds. -/
theorem obeys_contest_session {body : StoreM α}
    (h : body.Obeys (K.monitor schema plan)
      (fun phase r => ∀ a, r = .ok a → (K.monitor schema plan).allows phase .commit) phase) :
    (session body).Obeys (K.monitor schema plan)
      (fun phase r => ∀ a, r = .ok a → phase = .reading []) phase := by
  refine obeys_session (E := fun _ => True) (S := fun phase _ => phase = .reading [])
    (Prog.obeys_mono h (fun phase r hphase => ⟨hphase, fun _ _ => trivial⟩)) ?_ ?_ ?_
  · intro phase a hallows
    refine ⟨hallows, fun rows => ?_, fun _ _ => trivial⟩
    cases phase <;> rfl
  · intro phase e _
    refine ⟨?_, fun rows a h => (nomatch h), fun e' g' _ a h => nomatch h⟩
    cases phase <;> trivial
  · rintro phase a rfl
    exact ⟨trivial, fun rows a' _ => rfl, fun e g' _ a h => nomatch h⟩

/-- A session that only reads. -/
theorem obeys_contest_fetchAll {reads : List (List Row)} :
    (session fetchAll).Obeys (K.monitor schema plan)
      (fun phase r => ∀ a, r = .ok a → phase = .reading []) (.reading reads) :=
  obeys_contest_session (obeys_fetchAll trivial (fun _ _ _ => trivial)
    (fun _ _ _ _ h => nomatch h))

end Contest

end ControlPlane

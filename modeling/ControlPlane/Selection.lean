/-
# Logs of a selection

One item at a time is selected, and a log records which, newest first.  Each selection
gets a generation, one more than the latest.  The standing of an item and its generation
are read off the log, and so is the item that was selected before the current one.
-/
import Mathlib.Data.List.Basic
import Mathlib.Algebra.Order.Ring.Int
import Mathlib.Tactic.Common
import Mathlib.Tactic.SplitIfs

namespace Selection

variable {Id : Type}

/-- The selections with their generations, newest first. -/
abbrev Log (Id : Type) := List (Id × ℤ)

/-- The generation of the latest selection. -/
def latest : Log Id → ℤ
  | [] => 0
  | e :: _ => e.2

/-- Select an item. -/
def select (log : Log Id) (id : Id) : Log Id := (id, latest log + 1) :: log

/-! ## Generations grow -/

/-- Generations are positive and grow with every selection. -/
structure Increasing (log : Log Id) : Prop where
  sorted : log.Pairwise (fun e e' => e'.2 < e.2)
  positive : ∀ e ∈ log, 0 < e.2

section Increasing

variable {log : Log Id}

theorem Increasing.nil : Increasing ([] : Log Id) where
  sorted := List.Pairwise.nil
  positive := fun _ h => absurd h List.not_mem_nil

theorem Increasing.le_latest (h : Increasing log) : ∀ e ∈ log, e.2 ≤ latest log := by
  intro e he
  cases log with
  | nil => exact absurd he List.not_mem_nil
  | cons e₀ rest =>
    rcases List.mem_cons.mp he with rfl | he
    · exact le_refl _
    · exact le_of_lt (List.rel_of_pairwise_cons h.sorted he)

theorem Increasing.latest_nonneg (h : Increasing log) : 0 ≤ latest log := by
  cases log with
  | nil => exact le_refl _
  | cons e rest => exact le_of_lt (h.positive e List.mem_cons_self)

theorem Increasing.select (h : Increasing log) (id : Id) : Increasing (select log id) where
  sorted := by
    refine List.pairwise_cons.mpr ⟨fun e he => ?_, h.sorted⟩
    have hle := h.le_latest e he
    show e.2 < latest log + 1
    omega
  positive := by
    intro e he
    rcases List.mem_cons.mp he with rfl | he
    · have hnonneg := h.latest_nonneg
      show 0 < latest log + 1
      omega
    · exact h.positive e he

/-- An entry is known by its generation. -/
theorem Increasing.entry_unique (h : Increasing log) {e e' : Id × ℤ} (he : e ∈ log)
    (he' : e' ∈ log) (hg : e.2 = e'.2) : e = e' := by
  have hsorted := h.sorted
  clear h
  induction log with
  | nil => exact absurd he List.not_mem_nil
  | cons x rest ih =>
    obtain ⟨hx, hrest⟩ := List.pairwise_cons.mp hsorted
    rcases List.mem_cons.mp he with rfl | hin <;> rcases List.mem_cons.mp he' with rfl | hin'
    · rfl
    · exact absurd hg (Ne.symm (ne_of_lt (hx e' hin')))
    · exact absurd hg (ne_of_lt (hx e hin))
    · exact ih hin hin' hrest

end Increasing

/-! ## Standings -/

variable [DecidableEq Id]

/-- How an item stands: it was never selected, it is, or it was before. -/
inductive Standing where
  | never
  | current
  | former
  deriving DecidableEq, Repr

/-- The generation at which an item was selected last. -/
def generation (log : Log Id) (id : Id) : Option ℤ :=
  (log.find? (fun e => e.1 = id)).map Prod.snd

/-- The standing of an item. -/
def standing (log : Log Id) (id : Id) : Standing :=
  match log with
  | [] => .never
  | e :: rest =>
    if e.1 = id then .current
    else if ∃ e' ∈ rest, e'.1 = id then .former
    else .never

section Standing

variable {log rest : Log Id} {e : Id × ℤ} {id id' : Id}

theorem generation_cons_self {g : ℤ} : generation ((id, g) :: rest) id = some g := by
  unfold generation
  rw [List.find?_cons, decide_eq_true rfl]
  rfl

theorem generation_cons_of_ne (h : e.1 ≠ id) :
    generation (e :: rest) id = generation rest id := by
  unfold generation
  rw [List.find?_cons, decide_eq_false h]

theorem generation_some {g : ℤ} (h : generation log id = some g) : (id, g) ∈ log := by
  obtain ⟨e, he, rfl⟩ := Option.map_eq_some_iff.mp h
  have hid := List.find?_some he
  obtain rfl : e.1 = id := of_decide_eq_true hid
  exact List.mem_of_find?_eq_some he

theorem standing_cons_self (h : e.1 = id) : standing (e :: rest) id = .current := if_pos h

theorem standing_cons_of_ne (h : e.1 ≠ id) :
    standing (e :: rest) id = if ∃ e' ∈ rest, e'.1 = id then .former else .never := if_neg h

theorem standing_never_iff : standing log id = .never ↔ ∀ e ∈ log, e.1 ≠ id := by
  cases log with
  | nil => exact ⟨fun _ _ h => absurd h List.not_mem_nil, fun _ => rfl⟩
  | cons e rest =>
    rw [List.forall_mem_cons]
    by_cases hid : e.1 = id
    · rw [standing_cons_self hid]
      exact ⟨(fun h => nomatch h), fun h => absurd hid h.1⟩
    · rw [standing_cons_of_ne hid]
      split_ifs with hin
      · obtain ⟨e', he', hid'⟩ := hin
        exact ⟨(fun h => nomatch h), fun h => absurd hid' (h.2 e' he')⟩
      · exact ⟨fun _ => ⟨hid, fun e' he' hid' => hin ⟨e', he', hid'⟩⟩, fun _ => rfl⟩

theorem generation_none_iff : generation log id = none ↔ standing log id = .never := by
  rw [standing_never_iff]
  unfold generation
  rw [Option.map_eq_none_iff, List.find?_eq_none]
  simp only [decide_eq_true_eq]

/-- The current item is the one at the head of the log. -/
theorem standing_current_iff :
    standing log id = .current ↔ log.head?.map Prod.fst = some id := by
  cases log with
  | nil => exact ⟨(fun h => nomatch h), (fun h => nomatch h)⟩
  | cons e rest =>
    rw [List.head?_cons, Option.map_some, Option.some.injEq]
    by_cases hid : e.1 = id
    · exact ⟨fun _ => hid, standing_cons_self⟩
    · rw [standing_cons_of_ne hid]
      split_ifs <;> exact ⟨(fun h => nomatch h), fun h => absurd h hid⟩

/-- The current item has the latest generation. -/
theorem generation_of_current (h : standing log id = .current) :
    generation log id = some (latest log) := by
  cases log with
  | nil => exact nomatch h
  | cons e rest =>
    obtain rfl : e.1 = id := Option.some.inj (standing_current_iff.mp h)
    exact generation_cons_self

/-- Two items that were selected have different generations. -/
theorem Increasing.generation_injective (h : Increasing log) {g : ℤ}
    (hid : generation log id = some g) (hid' : generation log id' = some g) : id = id' :=
  congrArg Prod.fst (h.entry_unique (generation_some hid) (generation_some hid') rfl)

theorem generation_select_self : generation (select log id) id = some (latest log + 1) :=
  generation_cons_self

theorem generation_select_of_ne (h : id' ≠ id) :
    generation (select log id) id' = generation log id' := generation_cons_of_ne (Ne.symm h)

theorem standing_select_self : standing (select log id) id = .current := standing_cons_self rfl

/-- Selecting an item makes the current one a former one and leaves the others. -/
theorem standing_select_of_ne (h : id' ≠ id) :
    standing (select log id) id'
      = if standing log id' = .current then .former else standing log id' := by
  unfold select
  rw [standing_cons_of_ne (Ne.symm h)]
  by_cases hin : ∃ e ∈ log, e.1 = id'
  · rw [if_pos hin]
    obtain ⟨e, he, hid⟩ := hin
    cases hst : standing log id' with
    | never => exact absurd hid (standing_never_iff.mp hst e he)
    | current => rfl
    | former => rfl
  · rw [if_neg hin, standing_never_iff.mpr (fun e he hid => hin ⟨e, he, hid⟩)]
    rfl

end Standing

/-! ## The item before -/

/-- The item that was selected last among the others than the current one. -/
def before (log : Log Id) : Option Id :=
  match log with
  | [] => none
  | e :: rest => (rest.find? (fun e' => e'.1 ≠ e.1)).map Prod.fst

section Before

variable {log : Log Id} {id : Id}

theorem before_eq_none_iff : before log = none ↔ ∀ id, standing log id ≠ .former := by
  cases log with
  | nil => exact ⟨(fun _ _ h => nomatch h), fun _ => rfl⟩
  | cons e rest =>
    unfold before
    rw [Option.map_eq_none_iff, List.find?_eq_none]
    constructor
    · intro hall id hst
      by_cases hid : e.1 = id
      · rw [standing_cons_self hid] at hst
        exact nomatch hst
      · rw [standing_cons_of_ne hid] at hst
        split_ifs at hst with hin
        obtain ⟨e', he', rfl⟩ := hin
        exact hall e' he' (decide_eq_true (Ne.symm hid))
    · intro hnone e' he' hne
      refine hnone e'.1 ?_
      rw [standing_cons_of_ne (Ne.symm (of_decide_eq_true hne)), if_pos ⟨e', he', rfl⟩]

/-- **The item before** is the former one with the greatest generation. -/
theorem Increasing.before_spec (h : Increasing log) (hbefore : before log = some id) :
    standing log id = .former ∧ ∃ g, generation log id = some g ∧
      ∀ id' g', standing log id' = .former → generation log id' = some g' → g' ≤ g := by
  cases log with
  | nil => exact nomatch hbefore
  | cons e rest =>
    obtain ⟨e₁, hfind, rfl⟩ := Option.map_eq_some_iff.mp hbefore
    have hdec := List.find?_some hfind
    have hne : e₁.1 ≠ e.1 := of_decide_eq_true hdec
    obtain ⟨-, xs, ys, hrest, hxs⟩ := List.find?_eq_some_iff_append.mp hfind
    -- every entry of the log before it is of the current item
    have hskip : ∀ x ∈ xs, x.1 = e.1 := by
      intro x hx
      have hno := hxs x hx
      rw [Bool.not_eq_true', decide_eq_false_iff_not, not_not] at hno
      exact hno
    have hfirst : rest.find? (fun e' => e'.1 = e₁.1) = some e₁ := by
      rw [List.find?_eq_some_iff_append]
      refine ⟨decide_eq_true rfl, xs, ys, hrest, fun x hx => ?_⟩
      rw [Bool.not_eq_true', decide_eq_false_iff_not]
      exact fun heq => hne (heq ▸ hskip x hx)
    have hgen : generation (e :: rest) e₁.1 = some e₁.2 := by
      rw [generation_cons_of_ne (Ne.symm hne)]
      unfold generation
      rw [hfirst]
      rfl
    refine ⟨?_, e₁.2, hgen, ?_⟩
    · rw [standing_cons_of_ne (Ne.symm hne), if_pos ⟨e₁, List.mem_of_find?_eq_some hfind, rfl⟩]
    · intro id' g' hst hg'
      have hid' : e.1 ≠ id' := by
        intro heq
        rw [standing_cons_self heq] at hst
        exact nomatch hst
      rcases List.mem_cons.mp (generation_some hg') with heq | hmem
      · exact absurd (congrArg Prod.fst heq).symm hid'
      · rw [hrest] at hmem
        rcases List.mem_append.mp hmem with hx | hy
        · exact absurd (hskip _ hx).symm hid'
        · rcases List.mem_cons.mp hy with heq | hy
          · exact le_of_eq (congrArg Prod.snd heq)
          · have hsorted := (List.pairwise_cons.mp h.sorted).2
            rw [hrest] at hsorted
            exact le_of_lt (List.rel_of_pairwise_cons (List.pairwise_append.mp hsorted).2.1 hy)

end Before

end Selection

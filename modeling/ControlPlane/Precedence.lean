/-
# Precedence chains and the join they compute

A decision procedure that tries its rules in order and returns the verdict of
the first one that fires does not look like a join of severities: a rule that
fires late is masked by every earlier one.  When the rules are listed from the
most to the least severe verdict the masking is harmless, and the chain returns
exactly the join of all the rules that fire (`firstMatch_fst`).  Severity
questions about the chain then become questions about single rules
(`joined_le_iff`, `le_joined`).
-/
import Mathlib.Data.List.Basic
import Mathlib.Order.Lattice
import Mathlib.Order.BoundedOrder.Lattice

namespace Precedence

variable {α β : Type*}

/-- A rule of a chain: whether it fires, and what it answers if it does. -/
structure Rule (α β : Type*) where
  fires : Bool
  verdict : α
  payload : β

/-- The answer of the first rule that fires, or the default. -/
def firstMatch : List (Rule α β) → α × β → α × β
  | [], dflt => dflt
  | r :: rs, dflt => if r.fires then (r.verdict, r.payload) else firstMatch rs dflt

section Join

variable [SemilatticeSup α] [OrderBot α]

/-- The join of the verdicts of all rules that fire. -/
def joined : List (Rule α β) → α
  | [] => ⊥
  | r :: rs => if r.fires then r.verdict ⊔ joined rs else joined rs

/-- A bound on the join is a bound on every rule that fires. -/
theorem joined_le_iff (rules : List (Rule α β)) (v : α) :
    joined rules ≤ v ↔ ∀ r ∈ rules, r.fires = true → r.verdict ≤ v := by
  induction rules with
  | nil => simp [joined]
  | cons r rs ih =>
    rw [joined]
    by_cases h : r.fires = true
    · rw [if_pos h, sup_le_iff, ih, List.forall_mem_cons]
      simp [h]
    · rw [if_neg h, ih, List.forall_mem_cons]
      simp [h]

/-- A rule that fires is below the join. -/
theorem le_joined {rules : List (Rule α β)} {r : Rule α β} (hr : r ∈ rules)
    (hf : r.fires = true) : r.verdict ≤ joined rules :=
  (joined_le_iff rules _).mp le_rfl r hr hf

/-- More rules that fire make no smaller a join. -/
theorem joined_mono {rules rules' : List (Rule α β)} (h : rules ⊆ rules') :
    joined rules ≤ joined rules' := by
  rw [joined_le_iff]
  intro r hr hf
  exact le_joined (h hr) hf

/-- **A chain listed by decreasing severity computes the join.** -/
theorem firstMatch_fst (rules : List (Rule α β)) (d : β)
    (hsorted : rules.Pairwise (fun r r' => r'.verdict ≤ r.verdict)) :
    (firstMatch rules (⊥, d)).1 = joined rules := by
  induction rules with
  | nil => rfl
  | cons r rs ih =>
    rw [List.pairwise_cons] at hsorted
    rw [firstMatch, joined]
    by_cases h : r.fires = true
    · rw [if_pos h, if_pos h]
      have hle : joined rs ≤ r.verdict :=
        (joined_le_iff rs _).mpr (fun r' hr' _ => hsorted.1 r' hr')
      exact (sup_eq_left.mpr hle).symm
    · rw [if_neg h, if_neg h]
      exact ih hsorted.2

end Join

section Linear

variable [LinearOrder α] [OrderBot α]

/-- Over a linear order the join reaches a proper level exactly when a single rule
that fires reaches it. -/
theorem le_joined_iff (rules : List (Rule α β)) {v : α} (hv : ¬ v ≤ ⊥) :
    v ≤ joined rules ↔ ∃ r ∈ rules, r.fires = true ∧ v ≤ r.verdict := by
  induction rules with
  | nil => simpa [joined] using hv
  | cons r rs ih =>
    rw [joined, List.exists_mem_cons_iff]
    by_cases h : r.fires = true
    · rw [if_pos h, le_sup_iff, ih]
      simp [h]
    · rw [if_neg h, ih]
      simp [h]

end Linear

end Precedence

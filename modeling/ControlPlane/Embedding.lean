/-
# Searching inside a longer text

A text that stands inside a longer one keeps its matches, as long as the characters at the
two seams do not change what a boundary sees.  A position of the inner text is carried to
the position of the longer text with the same character in front, where the inner text has
one, and with the rest of the longer text behind it.
-/
import ControlPlane.Regex

namespace Regex

/-- A position of the inner text, seen in the longer text: `before` is the character in front
of the inner text and `after` is what follows it. -/
def Pos.within (before : Option Char) (after : List Char) (pos : Pos) : Pos :=
  (pos.1.or before, pos.2 ++ after)

/-- Neither seam shows a word character to a boundary of the pattern. -/
def Pattern.Neutral (before : Option Char) (after : List Char) : Pattern → Prop
  | .chr _ => True
  | .seq a b => a.Neutral before after ∧ b.Neutral before after
  | .alt a b => a.Neutral before after ∧ b.Neutral before after
  | .rep _ _ r => r.Neutral before after
  | .boundary isWord =>
    before.elim false isWord = false ∧ after.head?.elim false isWord = false

variable {before : Option Char} {after : List Char} {r : Pattern} {pos pos' : Pos}

/-! ## Neutral patterns -/

theorem neutral_chain {rs : List Pattern} (h : ∀ r ∈ rs, r.Neutral before after) :
    (Pattern.chain rs).Neutral before after := by
  match rs with
  | [] => exact trivial
  | [r] => exact h r List.mem_cons_self
  | r :: r' :: rs =>
    exact ⟨h r List.mem_cons_self, neutral_chain (fun q hq => h q (List.mem_cons_of_mem _ hq))⟩

/-! ## Matches inside a longer text -/

/-- A boundary of the inner text is one of the longer text, and conversely. -/
theorem isBoundary_within {isWord : Char → Bool}
    (h : (Pattern.boundary isWord).Neutral before after) (pos : Pos) :
    isBoundary isWord (pos.within before after) = isBoundary isWord pos := by
  obtain ⟨hbefore, hafter⟩ := h
  obtain ⟨prev, rest⟩ := pos
  have hprev : (prev.or before).elim false isWord = prev.elim false isWord := by
    cases prev with
    | none => exact hbefore
    | some c => rfl
  have hrest : (rest ++ after).head?.elim false isWord = rest.head?.elim false isWord := by
    cases rest with
    | nil => exact hafter
    | cons c l => rfl
  unfold isBoundary Pos.within
  rw [hprev, hrest]

theorem iterate_within {step : Pos → List Pos}
    (h : ∀ p q, q ∈ step p → q.within before after ∈ step (p.within before after)) (n : ℕ)
    (hpos : pos' ∈ iterate step n pos) :
    pos'.within before after ∈ iterate step n (pos.within before after) := by
  induction n generalizing pos with
  | zero =>
    rw [iterate, List.mem_singleton] at hpos ⊢
    rw [hpos]
  | succ n ih =>
    rw [iterate, List.mem_flatMap] at hpos ⊢
    obtain ⟨p, hp, hpos⟩ := hpos
    exact ⟨p.within before after, h pos p hp, ih hpos⟩

/-- **A match of the inner text is a match of the longer one.**  The induction is on the
pattern; an unbounded repetition may try more rounds in the longer text. -/
theorem ends_within (hr : r.Neutral before after) (h : pos' ∈ ends r pos) :
    pos'.within before after ∈ ends r (pos.within before after) := by
  induction r generalizing pos pos' with
  | chr cls =>
    obtain ⟨prev, rest⟩ := pos
    cases rest with
    | nil =>
      rw [ends] at h
      exact absurd h List.not_mem_nil
    | cons c rest =>
      rw [ends] at h
      show pos'.within before after ∈ ends (.chr cls) (prev.or before, c :: (rest ++ after))
      rw [ends]
      by_cases hc : cls c = true
      · rw [if_pos hc, List.mem_singleton] at h ⊢
        rw [h]
        rfl
      · rw [if_neg hc] at h
        exact absurd h List.not_mem_nil
  | seq a b iha ihb =>
    rw [ends, List.mem_flatMap] at h ⊢
    obtain ⟨p, hp, h⟩ := h
    exact ⟨p.within before after, iha hr.1 hp, ihb hr.2 h⟩
  | alt a b iha ihb =>
    rw [ends, List.mem_append] at h ⊢
    rcases h with h | h
    · exact Or.inl (iha hr.1 h)
    · exact Or.inr (ihb hr.2 h)
  | rep lo hi r ih =>
    rw [ends, List.mem_flatMap] at h ⊢
    obtain ⟨n, hn, h⟩ := h
    refine ⟨n, ?_, iterate_within (fun p q hq => ih hr hq) n h⟩
    have hlength : pos.2.length ≤ (pos.within before after).2.length := by
      show pos.2.length ≤ (pos.2 ++ after).length
      rw [List.length_append]
      omega
    rw [List.mem_range'_1] at hn ⊢
    cases hi with
    | none =>
      simp only [Option.getD_none] at hn ⊢
      omega
    | some hi => exact hn
  | boundary isWord =>
    rw [ends] at h ⊢
    rw [isBoundary_within hr]
    by_cases hb : isBoundary isWord pos = true
    · rw [if_pos hb, List.mem_singleton] at h ⊢
      rw [h]
    · rw [if_neg hb] at h
      exact absurd h List.not_mem_nil

/-! ## Positions of a longer text -/

theorem self_mem_positions (prev : Option Char) (l : List Char) : (prev, l) ∈ positions prev l := by
  cases l with
  | nil => exact List.mem_singleton_self _
  | cons c l => exact List.mem_cons_self

theorem positions_behind (front : List Char) (prev : Option Char) (l : List Char)
    (h : pos ∈ positions (front.getLast?.or prev) l) : pos ∈ positions prev (front ++ l) := by
  induction front generalizing prev with
  | nil => exact h
  | cons c front ih =>
    rw [List.cons_append, positions]
    refine List.mem_cons_of_mem _ (ih (some c) ?_)
    have hlast : (c :: front).getLast?.or prev = front.getLast?.or (some c) := by
      rw [List.getLast?_cons]
      cases front.getLast? <;> rfl
    rw [← hlast]
    exact h

theorem positions_within (prev : Option Char) (l : List Char) (h : pos ∈ positions prev l) :
    pos.within before after ∈ positions (prev.or before) (l ++ after) := by
  induction l generalizing prev with
  | nil =>
    rw [positions, List.mem_singleton] at h
    rw [h]
    exact self_mem_positions _ _
  | cons c l ih =>
    rw [positions, List.mem_cons] at h
    rw [List.cons_append, positions, List.mem_cons]
    rcases h with h | h
    · left
      rw [h]
      rfl
    · right
      exact ih (some c) h

/-- **What is found in a text is found in every longer text** whose seams are neutral for the
pattern. -/
theorem search_within {text front : List Char} (hr : r.Neutral front.getLast? after)
    (h : search r text = true) : search r (front ++ text ++ after) = true := by
  unfold search at h ⊢
  rw [List.any_eq_true] at h ⊢
  obtain ⟨pos, hpos, hends⟩ := h
  rw [decide_eq_true_eq, List.isEmpty_eq_false_iff_exists_mem] at hends
  obtain ⟨pos', hpos'⟩ := hends
  refine ⟨pos.within front.getLast? after, ?_, ?_⟩
  · rw [List.append_assoc]
    refine positions_behind front none _ ?_
    rw [Option.or_none]
    exact positions_within none text hpos
  · rw [decide_eq_true_eq, List.isEmpty_eq_false_iff_exists_mem]
    exact ⟨_, ends_within hr hpos'⟩

end Regex

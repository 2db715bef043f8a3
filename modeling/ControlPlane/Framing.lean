/-
# Joined and framed texts

Two ways to write a list of texts as one text, over any alphabet, and when the parts can be
told apart again.

* `[sep].intercalate parts` puts a separator between the parts.  Among the lists of the same
  length the parts are the only ones with their text exactly when none of them holds the
  separator (`parts_unique_iff`).
* `framed z items` writes each item as its name and its content, each closed by the mark `z`.
  The contents are the only ones with their text exactly when no frame shows inside a content
  (`contents_unique_iff`).
-/
import Mathlib

namespace Framing

variable {α : Type}

/-! ## Joined by a separator -/

section Joined

variable [DecidableEq α] {sep : α} {parts : List (List α)}

/-- The separators of a joined text: those between the parts and those inside them. -/
theorem count_join (sep : α) (hne : parts ≠ []) : ([sep].intercalate parts).count sep + 1
    = parts.length + (parts.map (List.count sep)).sum := by
  induction parts with
  | nil => exact absurd rfl hne
  | cons part parts ih =>
    cases parts with
    | nil =>
      rw [List.intercalate_singleton, List.map_singleton, List.sum_singleton,
        List.length_singleton]
      omega
    | cons part' parts =>
      have ih := ih (List.cons_ne_nil _ _)
      rw [List.intercalate_cons_cons, List.count_append, List.count_append,
        List.count_singleton_self, List.map_cons, List.sum_cons, List.length_cons]
      omega

/-- Parts without the separator are read back by splitting. -/
theorem eq_of_join_eq {parts' : List (List α)} (hfree : ∀ part ∈ parts, sep ∉ part)
    (hne : parts ≠ []) (hlength : parts'.length = parts.length)
    (hjoin : [sep].intercalate parts' = [sep].intercalate parts) : parts' = parts := by
  have hne' : parts' ≠ [] := by
    rintro rfl
    exact hne (List.length_eq_zero_iff.mp hlength.symm)
  have hcount := count_join sep hne
  have hcount' := count_join sep hne'
  have hzero : (parts.map (List.count sep)).sum = 0 := by
    rw [List.sum_eq_zero_iff_forall_eq_nat]
    intro n hn
    obtain ⟨part, hpart, rfl⟩ := List.mem_map.mp hn
    exact List.count_eq_zero.mpr (hfree part hpart)
  have hzero' : (parts'.map (List.count sep)).sum = 0 := by
    rw [hjoin] at hcount'
    omega
  have hfree' : ∀ part ∈ parts', sep ∉ part := by
    intro part hpart
    rw [List.sum_eq_zero_iff_forall_eq_nat] at hzero'
    exact List.count_eq_zero.mp (hzero' _ (List.mem_map_of_mem hpart))
  rw [← List.splitOn_intercalate sep hfree' hne', hjoin, List.splitOn_intercalate sep hfree hne]

/-- A part with the separator can be cut there, and its neighbour moved up to the cut. -/
theorem exists_other_parts (hlength : 2 ≤ parts.length) (hsep : ∃ part ∈ parts, sep ∈ part) :
    ∃ parts', parts'.length = parts.length ∧ parts' ≠ parts ∧
      [sep].intercalate parts' = [sep].intercalate parts := by
  induction parts with
  | nil => exact absurd hlength (by simp)
  | cons part parts ih =>
    obtain ⟨next, rest, rfl⟩ : ∃ next rest, parts = next :: rest := by
      cases parts with
      | nil => exact absurd hlength (by simp)
      | cons next rest => exact ⟨next, rest, rfl⟩
    by_cases hhead : sep ∈ part
    · obtain ⟨a, b, rfl⟩ := List.append_of_mem hhead
      refine ⟨a :: (b ++ sep :: next) :: rest, by simp, ?_, ?_⟩
      · intro h
        have hlen := congrArg List.length (List.cons.inj h).1
        simp at hlen
      · cases rest with
        | nil => simp [List.intercalate_cons_cons]
        | cons last rest => simp [List.intercalate_cons_cons]
    have hsep' : ∃ part ∈ next :: rest, sep ∈ part := by
      obtain ⟨p, hp, hs⟩ := hsep
      rcases List.mem_cons.mp hp with rfl | hp
      · exact absurd hs hhead
      · exact ⟨p, hp, hs⟩
    cases rest with
    | nil =>
      -- the last part gives its front to the part before
      obtain ⟨p, hp, hs⟩ := hsep'
      rw [List.mem_singleton] at hp
      subst hp
      obtain ⟨a, b, rfl⟩ := List.append_of_mem hs
      refine ⟨[part ++ sep :: a, b], rfl, ?_, by simp [List.intercalate_cons_cons]⟩
      intro h
      have hlen := congrArg List.length (List.cons.inj h).1
      simp at hlen
    | cons last rest =>
      obtain ⟨parts', hlen, hne, hjoin⟩ := ih (by simp) hsep'
      obtain ⟨first, others, rfl⟩ : ∃ first others, parts' = first :: others := by
        cases parts' with
        | nil => simp at hlen
        | cons first others => exact ⟨first, others, rfl⟩
      refine ⟨part :: first :: others, by simp [hlen], ?_, ?_⟩
      · intro h
        exact hne (List.cons.inj h).2
      · rw [List.intercalate_cons_cons, hjoin, ← List.intercalate_cons_cons]

/-- **When joined parts can be told apart**: exactly when none holds the separator. -/
theorem parts_unique_iff (sep : α) (hlength : 2 ≤ parts.length) :
    (∀ parts' : List (List α), parts'.length = parts.length →
      [sep].intercalate parts' = [sep].intercalate parts → parts' = parts)
      ↔ ∀ part ∈ parts, sep ∉ part := by
  constructor
  · intro h part hpart hsep
    obtain ⟨parts', hlen, hne, hjoin⟩ := exists_other_parts hlength ⟨part, hpart, hsep⟩
    exact hne (h parts' hlen hjoin)
  · intro hfree parts' hlen hjoin
    refine eq_of_join_eq hfree ?_ hlen hjoin
    rintro rfl
    exact absurd hlength (by simp)

end Joined

/-! ## Framed by names -/

section Framed

/-- The text of the items: each name and each content is closed by the mark. -/
def framed (z : α) (items : List (List α × List α)) : List α :=
  items.flatMap (fun p => p.1 ++ z :: p.2 ++ [z])

/-- What stands in front of the content of a name: the mark that closed the content before,
the name and its own mark. -/
def frame (z : α) (name : List α) : List α := z :: name ++ [z]

/-- The frame of the second of two neighbours shows neither at the end of the first content
nor at the start of the second. -/
def Apart (z : α) : List (List α × List α) → Prop
  | (_, c₀) :: (name, c) :: rest =>
    ¬ frame z name <:+: c₀ ++ [z] ∧ ¬ frame z name <:+: z :: c ∧ Apart z ((name, c) :: rest)
  | _ => True

variable {z : α} {items items' : List (List α × List α)}

theorem framed_cons (name c : List α) (items : List (List α × List α)) :
    z :: framed z ((name, c) :: items) = frame z name ++ (c ++ z :: framed z items) := by
  unfold framed frame
  simp

/-- A name without the mark ends at the first mark. -/
theorem mark_split {name u v w : List α} (hname : z ∉ name) (h : name ++ z :: u = v ++ z :: w) :
    (v = name ∧ w = u) ∨ ∃ t, v = name ++ z :: t ∧ u = t ++ z :: w := by
  rcases List.append_eq_append_iff.mp h with ⟨t, hv, ht⟩ | ⟨t, hn, ht⟩
  · cases t with
    | nil => exact Or.inl ⟨by rw [hv, List.append_nil], ((List.cons.inj ht).2).symm⟩
    | cons a t =>
      rw [List.cons_append, List.cons.injEq] at ht
      obtain ⟨rfl, ht⟩ := ht
      exact Or.inr ⟨t, hv, ht⟩
  · cases t with
    | nil => exact Or.inl ⟨by rw [hn, List.append_nil], (List.cons.inj ht).2⟩
    | cons a t =>
      rw [List.cons_append, List.cons.injEq] at ht
      obtain ⟨rfl, -⟩ := ht
      exact absurd (by rw [hn]; simp) hname

/-- A text that shows a frame behind its own frame shows it in its content. -/
theorem frame_shows {name c pre rest : List α} (hname : z ∉ name) (hpre : pre ≠ [])
    (h : frame z name ++ c = pre ++ (frame z name ++ rest)) : frame z name <:+: z :: c := by
  obtain ⟨a, pre, rfl⟩ := List.exists_cons_of_ne_nil hpre
  simp only [frame, List.cons_append, List.append_assoc, List.nil_append, List.cons.injEq] at h
  obtain ⟨rfl, h⟩ := h
  rcases mark_split hname h with ⟨-, h⟩ | ⟨t, -, h⟩
  · exact ⟨[], rest, by rw [← h, frame]; simp⟩
  · exact ⟨z :: t, rest, by rw [h, frame]; simp⟩

/-- Items under the same names begin with the same name. -/
theorem exists_of_names_cons {name c : List α}
    (h : items'.map Prod.fst = ((name, c) :: items).map Prod.fst) :
    ∃ c' rest, items' = (name, c') :: rest ∧ rest.map Prod.fst = items.map Prod.fst := by
  cases items' with
  | nil =>
    rw [List.map_nil, List.map_cons] at h
    cases h
  | cons p rest =>
    rw [List.map_cons, List.map_cons, List.cons.injEq] at h
    exact ⟨p.2, rest, congrArg (· :: rest) (Prod.ext h.1 rfl), h.2⟩

/-- **No reading starts later**: when no content shows its own frame, the text of other
contents under the same names is not a proper end of the text.  The induction compares the
remaining frames from the last one on. -/
theorem not_shifted (hnames : ∀ p ∈ items, z ∉ p.1)
    (hfree : ∀ p ∈ items, ¬ frame z p.1 <:+: z :: p.2)
    (hsame : items'.map Prod.fst = items.map Prod.fst) {pre : List α}
    (h : z :: framed z items = pre ++ z :: framed z items') : pre = [] := by
  induction items generalizing items' pre with
  | nil =>
    rw [List.map_nil, List.map_eq_nil_iff] at hsame
    rw [hsame] at h
    have hlen := congrArg List.length h
    rw [List.length_append] at hlen
    exact List.length_eq_zero_iff.mp (by omega)
  | cons p items ih =>
    obtain ⟨name, c⟩ := p
    obtain ⟨c', items', rfl, hnext⟩ := exists_of_names_cons hsame
    by_contra hpre
    rw [framed_cons, framed_cons] at h
    have hmove : frame z name ++ (c ++ z :: framed z items)
        = (pre ++ (frame z name ++ c')) ++ z :: framed z items' := by
      rw [h]
      simp only [List.append_assoc]
    obtain ⟨rest, hrest⟩ : ∃ rest, frame z name ++ c = pre ++ (frame z name ++ c') ++ rest := by
      rw [← List.append_assoc] at hmove
      rcases List.append_eq_append_iff.mp hmove with ⟨t, ht, hlater⟩ | ⟨t, ht, -⟩
      · have hnil := ih (fun p hp => hnames p (List.mem_cons_of_mem _ hp))
          (fun p hp => hfree p (List.mem_cons_of_mem _ hp)) hnext hlater
        exact ⟨[], by rw [ht, hnil, List.append_nil, List.append_nil]⟩
      · exact ⟨t, ht⟩
    have hshow : frame z name ++ c = pre ++ (frame z name ++ (c' ++ rest)) := by
      rw [hrest]
      simp only [List.append_assoc]
    exact hfree _ List.mem_cons_self (frame_shows (hnames _ List.mem_cons_self) hpre hshow)

theorem Apart.tail {p : List α × List α} (h : Apart z (p :: items)) : Apart z items := by
  cases items with
  | nil => exact trivial
  | cons q items => exact h.2.2

/-- No later content shows its own frame. -/
theorem Apart.free {p : List α × List α} (h : Apart z (p :: items)) :
    ∀ q ∈ items, ¬ frame z q.1 <:+: z :: q.2 := by
  induction items generalizing p with
  | nil => exact fun q hq => absurd hq List.not_mem_nil
  | cons q items ih =>
    intro r hr
    rcases List.mem_cons.mp hr with rfl | hr
    · exact h.2.1
    · exact ih h.tail r hr

/-- **Contents apart from their frames are read back.** -/
theorem eq_of_framed_eq (hnames : ∀ p ∈ items, z ∉ p.1) (hapart : Apart z items)
    (hsame : items'.map Prod.fst = items.map Prod.fst) (h : framed z items' = framed z items) :
    items' = items := by
  induction items generalizing items' with
  | nil =>
    rw [List.map_nil, List.map_eq_nil_iff] at hsame
    exact hsame
  | cons p items ih =>
    obtain ⟨name, c⟩ := p
    obtain ⟨c', items', rfl, hnext⟩ := exists_of_names_cons hsame
    have hrest : ∀ p ∈ items, z ∉ p.1 := fun p hp => hnames p (List.mem_cons_of_mem _ hp)
    have htext := congrArg (z :: ·) h
    simp only [framed_cons, List.append_cancel_left_eq] at htext
    have hcontent : c' = c := by
      rcases List.append_eq_append_iff.mp htext with ⟨t, hc, ht⟩ | ⟨t, hc, ht⟩
      · -- the other content is shorter: the next frame shows at the end of this one
        by_contra hne
        have htne : t ≠ [] := by
          rintro rfl
          exact hne (by rw [hc, List.append_nil])
        cases items with
        | nil =>
          rw [List.map_nil, List.map_eq_nil_iff] at hnext
          rw [hnext] at ht
          have hlen := congrArg List.length ht
          rw [List.length_append] at hlen
          exact htne (List.length_eq_zero_iff.mp (by omega))
        | cons q items =>
          obtain ⟨next, d⟩ := q
          obtain ⟨d', items', rfl, -⟩ := exists_of_names_cons hnext
          obtain ⟨a, t, rfl⟩ := List.exists_cons_of_ne_nil htne
          rw [framed_cons, frame, List.cons_append, List.cons_append, List.cons_append,
            List.cons.injEq] at ht
          obtain ⟨rfl, ht⟩ := ht
          rw [List.append_assoc, List.singleton_append] at ht
          refine hapart.1 ?_
          rcases mark_split (hrest _ List.mem_cons_self) ht with ⟨hn, -⟩ | ⟨u, hu, -⟩
          · exact ⟨c', [], by rw [hc, hn, frame]; simp⟩
          · exact ⟨c', u ++ [z], by rw [hc, hu, frame]; simp⟩
      · -- the other content is longer: its text starts later
        rw [hc, not_shifted hrest hapart.free hnext ht, List.append_nil]
    subst hcontent
    simp only [List.append_cancel_left_eq, List.cons.injEq, true_and] at htext
    rw [ih hrest hapart.tail hnext htext]

/-- Where a frame shows, the text can be read in another way. -/
theorem exists_other_contents (h : ¬ Apart z items) : ∃ items',
    items'.map Prod.fst = items.map Prod.fst ∧ items' ≠ items ∧
      framed z items' = framed z items := by
  induction items with
  | nil => exact absurd trivial h
  | cons p rest ih =>
    cases rest with
    | nil => exact absurd trivial h
    | cons q rest =>
      obtain ⟨name₀, c₀⟩ := p
      obtain ⟨name, c⟩ := q
      by_cases hend : frame z name <:+: c₀ ++ [z]
      · obtain ⟨a, b, hab⟩ := hend
        refine ⟨(name₀, a) :: (name, b ++ name ++ z :: c) :: rest, rfl, ?_, ?_⟩
        · intro heq
          have ha := (Prod.mk.inj (List.cons.inj heq).1).2
          have hlen := congrArg List.length hab
          rw [ha] at hlen
          simp [frame] at hlen
        · have hread : a ++ z :: (name ++ z :: (b ++ (name ++ z :: (c ++ z :: framed z rest))))
              = c₀ ++ z :: (name ++ z :: (c ++ z :: framed z rest)) := by
            have hab := congrArg (· ++ (name ++ z :: (c ++ z :: framed z rest))) hab
            simpa [frame] using hab
          simpa [framed] using hread
      by_cases hstart : frame z name <:+: z :: c
      · obtain ⟨a, b, hab⟩ := hstart
        refine ⟨(name₀, c₀ ++ z :: name ++ a) :: (name, b) :: rest, rfl, ?_, ?_⟩
        · intro heq
          have hb := (Prod.mk.inj (List.cons.inj (List.cons.inj heq).2).1).2
          have hlen := congrArg List.length hab
          rw [hb] at hlen
          simp [frame] at hlen
          omega
        · have hread : a ++ z :: (name ++ z :: (b ++ z :: framed z rest))
              = z :: (c ++ z :: framed z rest) := by
            have hab := congrArg (· ++ z :: framed z rest) hab
            simpa [frame] using hab
          have hread := congrArg (c₀ ++ z :: name ++ ·) hread
          simpa [framed] using hread
      have hrest : ¬ Apart z ((name, c) :: rest) := fun hrest => h ⟨hend, hstart, hrest⟩
      obtain ⟨items', hsame, hne, htext⟩ := ih hrest
      refine ⟨(name₀, c₀) :: items', by rw [List.map_cons, hsame]; rfl, ?_, ?_⟩
      · intro heq
        exact hne (List.cons.inj heq).2
      · have hread : framed z ((name₀, c₀) :: items')
            = (name₀ ++ z :: c₀ ++ [z]) ++ framed z items' := rfl
        rw [hread, htext]
        rfl

/-- **When framed contents can be told apart**: exactly when no frame shows in the contents
at its sides. -/
theorem contents_unique_iff (hnames : ∀ p ∈ items, z ∉ p.1) :
    (∀ items' : List (List α × List α), items'.map Prod.fst = items.map Prod.fst →
      framed z items' = framed z items → items' = items) ↔ Apart z items := by
  constructor
  · intro h
    by_contra hapart
    obtain ⟨items', hsame, hne, htext⟩ := exists_other_contents hapart
    exact hne (h items' hsame htext)
  · exact fun hapart items' hsame htext => eq_of_framed_eq hnames hapart hsame htext

end Framed

end Framing

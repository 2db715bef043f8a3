/-
# Quoted literals

A literal is a text between two marks in which a backslash starts an escape.  A dialect
says which characters may stand in it as they are and what each escape denotes; its
reader returns what the literal denotes and the text behind the closing mark.  A writer
that encodes a value piece by piece is read back piece by piece (`read_flatMap`), whatever
follows, and one piece that may not stand in a literal spoils every text around it
(`read_flatMap_none`).
-/
import Mathlib.Data.List.Basic

namespace QuotedText

/-! ## The reader -/

/-- The rules of a quoted literal. -/
structure Dialect (β : Type) where
  /-- The mark that ends a literal. -/
  mark : Char
  /-- What a character denotes, or `none` where it may not stand in a literal. -/
  raw : Char → Option (List β)
  /-- What the text after a backslash denotes, with the text behind the escape. -/
  escape : List Char → Option (List β × List Char)
  mark_ne : mark ≠ '\\'
  shorter : ∀ {t u r}, escape t = some (u, r) → r.length < t.length

variable {β : Type} (d : Dialect β)

/-- Reads a literal from behind its opening mark.  Each character or escape uses one unit
of the fuel. -/
def readUpto : ℕ → List Char → Option (List β × List Char)
  | 0, _ => none
  | _ + 1, [] => none
  | n + 1, c :: t =>
    if c = d.mark then some ([], t)
    else if c = '\\' then
      (d.escape t).bind fun e => (readUpto n e.2).map fun p => (e.1 ++ p.1, p.2)
    else
      (d.raw c).bind fun u => (readUpto n t).map fun p => (u ++ p.1, p.2)

/-- What a literal denotes, and the text behind its closing mark. -/
def read (t : List Char) : Option (List β × List Char) := readUpto d t.length t

/-- The value of a text that is the inside of one literal. -/
def decode (t : List Char) : Option (List β) :=
  match read d (t ++ [d.mark]) with
  | some (v, []) => some v
  | _ => none

theorem readUpto_eq_of_le (n m : ℕ) (t : List Char) (hn : t.length ≤ n) (hm : t.length ≤ m) :
    readUpto d n t = readUpto d m t := by
  induction n generalizing m t with
  | zero =>
      have ht : t = [] := List.eq_nil_of_length_eq_zero (by omega)
      subst ht
      cases m <;> rfl
  | succ n ih =>
      cases t with
      | nil => cases m <;> rfl
      | cons c t =>
          obtain ⟨m, rfl⟩ : ∃ k, m = k + 1 := ⟨m - 1, by simp at hm; omega⟩
          simp only [List.length_cons] at hn hm
          unfold readUpto
          by_cases hmark : c = d.mark
          · simp [hmark]
          · by_cases hback : c = '\\'
            · subst hback
              simp only [hmark, if_true, if_false]
              -- an escape leaves less text than the fuel that remains
              refine Option.bind_congr fun e he => ?_
              have hlt := d.shorter (u := e.1) (r := e.2) (t := t) he
              rw [ih m e.2 (by omega) (by omega)]
            · simp only [hmark, hback, if_false]
              rw [ih m t (by omega) (by omega)]

/-- The fuel of `read` is enough, and more does not change the result. -/
theorem readUpto_eq {n : ℕ} {t : List Char} (hn : t.length ≤ n) :
    readUpto d n t = read d t :=
  readUpto_eq_of_le d n t.length t hn (Nat.le_refl _)

theorem read_mark (t : List Char) : read d (d.mark :: t) = some ([], t) := by
  show readUpto d (t.length + 1) (d.mark :: t) = some ([], t)
  simp [readUpto]

theorem read_escape (t : List Char) :
    read d ('\\' :: t) =
      (d.escape t).bind fun e => (read d e.2).map fun p => (e.1 ++ p.1, p.2) := by
  show readUpto d (t.length + 1) ('\\' :: t) = _
  have hmark : ¬ '\\' = d.mark := fun h => d.mark_ne h.symm
  simp only [readUpto, hmark, if_true, if_false]
  refine Option.bind_congr fun e he => ?_
  have hlt := d.shorter (u := e.1) (r := e.2) (t := t) he
  rw [readUpto_eq d (by omega)]

theorem read_raw {c : Char} (hmark : c ≠ d.mark) (hback : c ≠ '\\') (t : List Char) :
    read d (c :: t) = (d.raw c).bind fun u => (read d t).map fun p => (u ++ p.1, p.2) := by
  show readUpto d (t.length + 1) (c :: t) = _
  simp only [readUpto, hmark, hback, if_false]
  rw [readUpto_eq d (Nat.le_refl _)]

/-- A literal uses at least its closing mark. -/
theorem read_shorter {t r : List Char} {v : List β} (h : read d t = some (v, r)) :
    r.length < t.length := by
  induction n : t.length using Nat.strongRecOn generalizing t v with
  | ind n ih =>
    subst n
    cases t with
    | nil => simp [read, readUpto] at h
    | cons c t =>
        by_cases hmark : c = d.mark
        · subst hmark
          rw [read_mark] at h
          simp only [Option.some.injEq, Prod.mk.injEq] at h
          rw [← h.2]
          simp
        · by_cases hback : c = '\\'
          · subst hback
            rw [read_escape] at h
            obtain ⟨e, he, h⟩ := Option.bind_eq_some_iff.mp h
            obtain ⟨p, hp, h⟩ := Option.map_eq_some_iff.mp h
            have hlt := d.shorter (u := e.1) (r := e.2) he
            have hrest : p.2 = r := (Prod.mk.inj h).2
            have hshort := ih e.2.length (by simp; omega) (v := p.1) (by rw [hp, ← hrest]) rfl
            simp only [List.length_cons]
            omega
          · rw [read_raw d hmark hback] at h
            obtain ⟨u, -, h⟩ := Option.bind_eq_some_iff.mp h
            obtain ⟨p, hp, h⟩ := Option.map_eq_some_iff.mp h
            have hrest : p.2 = r := (Prod.mk.inj h).2
            have hshort := ih t.length (by simp) (v := p.1) (by rw [hp, ← hrest]) rfl
            simp only [List.length_cons]
            omega

/-! ## What a piece of text is read as -/

/-- Where the text stands in a literal, it denotes `u`. -/
def Writes (e : List Char) (u : List β) : Prop :=
  ∀ t, read d (e ++ t) = (read d t).map fun p => (u ++ p.1, p.2)

/-- The text may not stand in a literal. -/
def Spoils (e : List Char) : Prop := ∀ t, read d (e ++ t) = none

variable {d}

theorem Writes.nil : Writes d [] [] := by
  intro t
  simp

theorem Writes.append {e f : List Char} {u v : List β} (he : Writes d e u)
    (hf : Writes d f v) : Writes d (e ++ f) (u ++ v) := by
  intro t
  rw [List.append_assoc, he (f ++ t), hf t, Option.map_map]
  congr 1
  funext p
  simp

theorem Writes.spoils_append {e f : List Char} {u : List β} (he : Writes d e u)
    (hf : Spoils d f) : Spoils d (e ++ f) := by
  intro t
  rw [List.append_assoc, he (f ++ t), hf t]
  rfl

theorem Spoils.append {e : List Char} (he : Spoils d e) (f : List Char) :
    Spoils d (e ++ f) := by
  intro t
  rw [List.append_assoc]
  exact he (f ++ t)

theorem writes_raw {c : Char} {u : List β} (hmark : c ≠ d.mark) (hback : c ≠ '\\')
    (hraw : d.raw c = some u) : Writes d [c] u := by
  intro t
  rw [List.singleton_append, read_raw d hmark hback, hraw]
  rfl

theorem spoils_raw {c : Char} (hmark : c ≠ d.mark) (hback : c ≠ '\\')
    (hraw : d.raw c = none) : Spoils d [c] := by
  intro t
  rw [List.singleton_append, read_raw d hmark hback, hraw]
  rfl

theorem writes_escape {e : List Char} {u : List β}
    (hesc : ∀ t, d.escape (e ++ t) = some (u, t)) : Writes d ('\\' :: e) u := by
  intro t
  rw [List.cons_append, read_escape, hesc t]
  rfl

/-! ## Values encoded piece by piece -/

variable {α : Type}

theorem writes_flatMap {enc : α → List Char} {dec : α → List β} (s : List α)
    (h : ∀ a ∈ s, Writes d (enc a) (dec a)) : Writes d (s.flatMap enc) (s.flatMap dec) := by
  induction s with
  | nil => exact Writes.nil
  | cons a s ih =>
      have ha : Writes d (enc a) (dec a) := h a List.mem_cons_self
      have hs := ih fun b hb => h b (List.mem_cons_of_mem a hb)
      simp only [List.flatMap_cons]
      exact ha.append hs

/-- **The round trip.**  A value whose pieces are written one after the other is read
back from in front of any text, up to the closing mark. -/
theorem read_flatMap {enc : α → List Char} {dec : α → List β} (s : List α)
    (h : ∀ a ∈ s, Writes d (enc a) (dec a)) (t : List Char) :
    read d (s.flatMap enc ++ d.mark :: t) = some (s.flatMap dec, t) := by
  rw [writes_flatMap s h, read_mark]
  simp

/-- One piece that may not stand in a literal spoils the text from the first such piece
on, when every other piece is written well. -/
theorem spoils_flatMap {enc : α → List Char} {dec : α → List β} (s : List α)
    (h : ∀ a ∈ s, Writes d (enc a) (dec a) ∨ Spoils d (enc a))
    (hbad : ∃ a ∈ s, Spoils d (enc a)) : Spoils d (s.flatMap enc) := by
  induction s with
  | nil =>
      obtain ⟨a, ha, -⟩ := hbad
      simp at ha
  | cons a s ih =>
      simp only [List.flatMap_cons]
      by_cases ha : Spoils d (enc a)
      · exact ha.append _
      · have hwrites : Writes d (enc a) (dec a) := (h a List.mem_cons_self).resolve_right ha
        refine hwrites.spoils_append (ih (fun b hb => h b (List.mem_cons_of_mem a hb)) ?_)
        obtain ⟨b, hb, hspoils⟩ := hbad
        rcases List.mem_cons.mp hb with rfl | hb
        · exact absurd hspoils ha
        · exact ⟨b, hb, hspoils⟩

theorem read_flatMap_none {enc : α → List Char} {dec : α → List β} (s : List α)
    (h : ∀ a ∈ s, Writes d (enc a) (dec a) ∨ Spoils d (enc a))
    (hbad : ∃ a ∈ s, Spoils d (enc a)) (t : List Char) :
    read d (s.flatMap enc ++ t) = none :=
  spoils_flatMap s h hbad t

/-! ## Replacing one character -/

/-- `s.replace(old, new)` for an `old` of one character. -/
def replace (old : Char) (new : List Char) (s : List Char) : List Char :=
  s.flatMap fun c => if c = old then new else [c]

theorem replace_flatMap (old : Char) (new : List Char) (enc : Char → List Char)
    (s : List Char) :
    replace old new (s.flatMap enc) = s.flatMap fun c => replace old new (enc c) :=
  List.flatMap_assoc

theorem replace_cons_of_ne {old c : Char} (hne : c ≠ old) (new : List Char) (s : List Char) :
    replace old new (c :: s) = c :: replace old new s := by
  simp [replace, hne]

@[simp] theorem replace_nil (old : Char) (new : List Char) : replace old new [] = [] := rfl

end QuotedText

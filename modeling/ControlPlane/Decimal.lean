/-
# Decimal notation of rationals

A rational whose denominator divides a power of ten is written with a decimal
point and as few places as it needs, at least one.  Any other rational is written
as numerator and denominator with an `e` between them, so that every rational has
a text and the text determines it (`parse_render`).
-/
import Mathlib.Data.Rat.Lemmas
import Mathlib.Data.List.Basic
import Mathlib.Tactic.NormNum

namespace Decimal

/-- The least number of decimal places, between one and sixteen, that suffices for a
denominator. -/
def places (den : ℕ) : Option ℕ := (List.range' 1 16).find? (fun k => 10 ^ k % den = 0)

/-- The digits of a number below `10 ^ k`, filled up with zeros to `k` places. -/
def pad (k n : ℕ) : List Char :=
  List.replicate (k - (Nat.toDigits 10 n).length) '0' ++ Nat.toDigits 10 n

/-- The text of a nonnegative rational given by numerator and denominator. -/
def renderAbs (num den : ℕ) : List Char :=
  match places den with
  | some k =>
    Nat.toDigits 10 (num * (10 ^ k / den) / 10 ^ k)
      ++ '.' :: pad k (num * (10 ^ k / den) % 10 ^ k)
  | none => Nat.toDigits 10 num ++ 'e' :: Nat.toDigits 10 den

/-- The text of a rational. -/
def render (q : ℚ) : List Char :=
  if q.num < 0 then '-' :: renderAbs q.num.natAbs q.den else renderAbs q.num.natAbs q.den

/-- Read an unsigned text, which starts with a digit. -/
def parseAbs (l : List Char) : Option ℚ :=
  let whole := (Nat.ofDigitChars 10 (l.takeWhile Char.isDigit) 0 : ℚ)
  if l.takeWhile Char.isDigit = [] then none else
  match l.dropWhile Char.isDigit with
  | '.' :: f => some (whole + Nat.ofDigitChars 10 f 0 / 10 ^ f.length)
  | 'e' :: d => some (whole / Nat.ofDigitChars 10 d 0)
  | [] => some whole
  | _ => none

/-- Read a text with an optional sign. -/
def parse : List Char → Option ℚ
  | '-' :: l => (parseAbs l).map (fun q => -q)
  | l => parseAbs l

theorem isDigit_of_mem {n : ℕ} {c : Char} (h : c ∈ Nat.toDigits 10 n) : c.isDigit = true :=
  Nat.isDigit_of_mem_toDigits (by decide) (by decide) h

theorem ofDigitChars_pad (k n : ℕ) : Nat.ofDigitChars 10 (pad k n) 0 = n := by
  rw [pad, Nat.ofDigitChars_append, Nat.ofDigitChars_replicate_zero, Nat.mul_zero,
    Nat.ofDigitChars_ten_toDigits]

theorem length_pad {k n : ℕ} (hk : 0 < k) (hn : n < 10 ^ k) : (pad k n).length = k := by
  have hlen : (Nat.toDigits 10 n).length ≤ k :=
    (Nat.length_toDigits_le_iff (by decide) hk).mpr hn
  rw [pad, List.length_append, List.length_replicate]
  omega

theorem places_spec {den k : ℕ} (h : places den = some k) : 0 < k ∧ den ∣ 10 ^ k := by
  have hmem := List.mem_of_find?_eq_some h
  have hmod := List.find?_some h
  rw [List.mem_range'_1] at hmem
  exact ⟨by omega, Nat.dvd_of_mod_eq_zero (by simpa using hmod)⟩

/-- Digits are read up to the first other character. -/
theorem span_toDigits (n : ℕ) {c : Char} (hc : c.isDigit = false) (r : List Char) :
    (Nat.toDigits 10 n ++ c :: r).takeWhile Char.isDigit = Nat.toDigits 10 n ∧
    (Nat.toDigits 10 n ++ c :: r).dropWhile Char.isDigit = c :: r := by
  have hdigits : ∀ d ∈ Nat.toDigits 10 n, d.isDigit = true := fun d hd => isDigit_of_mem hd
  constructor
  · rw [List.takeWhile_append_of_pos hdigits, List.takeWhile_cons, hc,
      if_neg Bool.false_ne_true, List.append_nil]
  · rw [List.dropWhile_append_of_pos hdigits, List.dropWhile_cons, hc, if_neg Bool.false_ne_true]

theorem parseAbs_renderAbs (num : ℕ) {den : ℕ} (hden : den ≠ 0) :
    parseAbs (renderAbs num den) = some (num / den : ℚ) := by
  unfold renderAbs
  cases hplaces : places den with
  | none =>
    obtain ⟨htake, hdrop⟩ := span_toDigits num (c := 'e') (by decide) (Nat.toDigits 10 den)
    simp only [parseAbs, htake, hdrop, Nat.ofDigitChars_ten_toDigits,
      if_neg Nat.toDigits_ne_nil]
  | some k =>
    obtain ⟨hk, d, hd⟩ := places_spec hplaces
    have hdiv : 10 ^ k / den = d := by
      rw [hd, Nat.mul_div_cancel_left _ (Nat.pos_of_ne_zero hden)]
    simp only [hdiv]
    obtain ⟨htake, hdrop⟩ := span_toDigits (num * d / 10 ^ k) (c := '.') (by decide)
      (pad k (num * d % 10 ^ k))
    have hlt : num * d % 10 ^ k < 10 ^ k := Nat.mod_lt _ (Nat.pow_pos (by decide))
    simp only [parseAbs, htake, hdrop, Nat.ofDigitChars_ten_toDigits, ofDigitChars_pad,
      length_pad hk hlt, if_neg Nat.toDigits_ne_nil, Option.some_inj]
    have hsum : ((num * d / 10 ^ k : ℕ) : ℚ) * 10 ^ k + ((num * d % 10 ^ k : ℕ) : ℚ) = num * d := by
      exact_mod_cast Nat.div_add_mod' (num * d) (10 ^ k)
    have hpow : (10 : ℚ) ^ k = den * d := by exact_mod_cast hd
    have hpow₀ : (10 : ℚ) ^ k ≠ 0 := pow_ne_zero k (by norm_num)
    have hd₀ : (d : ℚ) ≠ 0 := by
      intro h
      rw [hpow, h, mul_zero] at hpow₀
      exact hpow₀ rfl
    calc ((num * d / 10 ^ k : ℕ) : ℚ) + ((num * d % 10 ^ k : ℕ) : ℚ) / 10 ^ k
        = (((num * d / 10 ^ k : ℕ) : ℚ) * 10 ^ k + ((num * d % 10 ^ k : ℕ) : ℚ)) / 10 ^ k := by
          rw [add_div, mul_div_cancel_right₀ _ hpow₀]
      _ = (num * d) / (den * d) := by rw [hsum, hpow]
      _ = num / den := mul_div_mul_right _ _ hd₀

theorem renderAbs_head (num den : ℕ) : ∃ c t, renderAbs num den = c :: t ∧ c.isDigit = true := by
  have hdigits : ∀ n r, ∃ c t, Nat.toDigits 10 n ++ r = c :: t ∧ c.isDigit = true := by
    intro n r
    cases h : Nat.toDigits 10 n with
    | nil => exact absurd h Nat.toDigits_ne_nil
    | cons c t => exact ⟨c, t ++ r, rfl, isDigit_of_mem (h ▸ List.mem_cons_self)⟩
  unfold renderAbs
  split <;> exact hdigits _ _

/-- **Reading undoes writing.** -/
theorem parse_render (q : ℚ) : parse (render q) = some q := by
  have habs := parseAbs_renderAbs q.num.natAbs q.den_nz
  have hq : (q.num : ℚ) / q.den = q := q.num_div_den
  unfold render
  split_ifs with h
  · have hnum : ((q.num.natAbs : ℕ) : ℚ) = -(q.num : ℚ) := by
      rw [Nat.cast_natAbs, abs_of_neg h, Int.cast_neg]
    rw [parse, habs, Option.map_some, hnum, neg_div, neg_neg, hq]
  · obtain ⟨c, t, hc, hdigit⟩ := renderAbs_head q.num.natAbs q.den
    have hnum : ((q.num.natAbs : ℕ) : ℚ) = (q.num : ℚ) := by
      rw [Nat.cast_natAbs, abs_of_nonneg (not_lt.mp h)]
    rw [hnum, hq] at habs
    rw [hc] at habs ⊢
    unfold parse
    split
    · rename_i h
      cases h
      exact absurd hdigit (by decide)
    · exact habs

/-! ## The characters of a text -/

/-- A text has only digits, a sign, a point and an `e`. -/
theorem render_chars (q : ℚ) : ∀ c ∈ render q, c.isDigit = true ∨ c ∈ ['-', '.', 'e'] := by
  have hdigits : ∀ n, ∀ c ∈ Nat.toDigits 10 n, c.isDigit = true ∨ c ∈ ['-', '.', 'e'] :=
    fun n c hc => Or.inl (isDigit_of_mem hc)
  have hpad : ∀ k n, ∀ c ∈ pad k n, c.isDigit = true ∨ c ∈ ['-', '.', 'e'] := by
    intro k n c hc
    rcases List.mem_append.mp hc with hc | hc
    · rw [List.eq_of_mem_replicate hc]
      exact Or.inl (by decide)
    · exact hdigits n c hc
  have habs : ∀ num den, ∀ c ∈ renderAbs num den, c.isDigit = true ∨ c ∈ ['-', '.', 'e'] := by
    intro num den c hc
    unfold renderAbs at hc
    split at hc
    · rcases List.mem_append.mp hc with hc | hc
      · exact hdigits _ c hc
      · rcases List.mem_cons.mp hc with rfl | hc
        · exact Or.inr (by decide)
        · exact hpad _ _ c hc
    · rcases List.mem_append.mp hc with hc | hc
      · exact hdigits _ c hc
      · rcases List.mem_cons.mp hc with rfl | hc
        · exact Or.inr (by decide)
        · exact hdigits _ c hc
  intro c hc
  unfold render at hc
  split_ifs at hc
  · rcases List.mem_cons.mp hc with rfl | hc
    · exact Or.inr (by decide)
    · exact habs _ _ c hc
  · exact habs _ _ c hc

/-- A text has a point or an `e`. -/
theorem render_mark (q : ℚ) : '.' ∈ render q ∨ 'e' ∈ render q := by
  have habs : ∀ num den, '.' ∈ renderAbs num den ∨ 'e' ∈ renderAbs num den := by
    intro num den
    unfold renderAbs
    split
    · exact Or.inl (List.mem_append_right _ List.mem_cons_self)
    · exact Or.inr (List.mem_append_right _ List.mem_cons_self)
  unfold render
  split_ifs
  · exact (habs _ _).imp (List.mem_cons_of_mem _) (List.mem_cons_of_mem _)
  · exact habs _ _

end Decimal

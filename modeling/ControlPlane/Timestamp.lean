/-
# Timestamps

Instants are microseconds since the epoch, in UTC.  The store keeps them as the text
`datetime.isoformat` writes, which leaves the fraction out when it is zero; SQL compares
the texts, Python parses them back.
-/
import Mathlib.Data.String.Basic
import Mathlib.Data.Nat.Digits.Defs
import Mathlib.Tactic.Common

namespace ControlPlane

/-- An aware datetime: microseconds since 1970-01-01T00:00:00Z. -/
abbrev Instant := ℤ

namespace Timestamp

/-- Microseconds in a day. -/
def dayLength : ℤ := 86400000000

/-- The instant `n` seconds after the epoch. -/
def seconds (n : ℤ) : ℤ := n * 1000000

/-- The instant `n` days after the epoch. -/
def days (n : ℤ) : ℤ := n * dayLength

/-- The year, month and day of a day number, counted from the epoch. -/
def civil (day : ℤ) : ℤ × ℤ × ℤ :=
  -- eras of 400 years, which begin in March
  let z := day + 719468
  let era := z / 146097
  let doe := z % 146097
  let yoe := (doe - doe / 1460 + doe / 36524 - doe / 146096) / 365
  let doy := doe - (365 * yoe + yoe / 4 - yoe / 100)
  let mp := (5 * doy + 2) / 153
  let month := if mp < 10 then mp + 3 else mp - 9
  (yoe + era * 400 + (if month ≤ 2 then 1 else 0), month, doy - (153 * mp + 2) / 5 + 1)

/-- The day number of a year, month and day. -/
def dayOf (year month day : ℤ) : ℤ :=
  let y := if month ≤ 2 then year - 1 else year
  let era := y / 400
  let yoe := y % 400
  let mp := if month > 2 then month - 3 else month + 9
  let doy := (153 * mp + 2) / 5 + day - 1
  era * 146097 + (yoe * 365 + yoe / 4 - yoe / 100 + doy) - 719468

/-- The decimal digits of a number, with leading zeros. -/
def pad (width : ℕ) (n : ℤ) : List Char :=
  let digits := Nat.toDigits 10 n.toNat
  List.replicate (width - digits.length) '0' ++ digits

/-- `value.isoformat()` of a datetime in UTC. -/
def isoformat (t : Instant) : String :=
  let (year, month, day) := civil (t / dayLength)
  let rest := t % dayLength
  let micros := rest % 1000000
  let secs := rest / 1000000
  String.ofList (pad 4 year ++ ['-'] ++ pad 2 month ++ ['-'] ++ pad 2 day ++ ['T']
    ++ pad 2 (secs / 3600) ++ [':'] ++ pad 2 (secs / 60 % 60) ++ [':'] ++ pad 2 (secs % 60)
    ++ (if micros = 0 then [] else '.' :: pad 6 micros) ++ "+00:00".toList)

/-- The value of a run of decimal digits. -/
def number (l : List Char) : Option ℤ :=
  if l ≠ [] ∧ l.all Char.isDigit then
    some (l.foldl (fun n c => 10 * n + ((c.toNat : ℤ) - 48)) 0)
  else none

/-- The instant of a date and a time of day with a fraction of a second. -/
def assemble (date clock fraction : List Char) : Option Instant := do
  let year ← number (date.take 4)
  let month ← number ((date.drop 5).take 2)
  let day ← number (date.drop 8)
  let hour ← number (clock.take 2)
  let minute ← number ((clock.drop 3).take 2)
  let second ← number (clock.drop 6)
  let micros ← if fraction = [] then some 0 else number fraction.tail
  return days (dayOf year month day) + seconds (hour * 3600 + minute * 60 + second) + micros

/-- `datetime.fromisoformat` on the texts that `isoformat` writes. -/
def parseIso (text : String) : Option Instant :=
  let l := text.toList
  let body := l.take (l.length - 6)
  if l.drop (l.length - 6) = "+00:00".toList then
    assemble (body.take 10) ((body.drop 11).take 8) (body.drop 19)
  else none

example : isoformat 1700000000000001 = "2023-11-14T22:13:20.000001+00:00" := by decide +kernel
example : isoformat 951782400000000 = "2000-02-29T00:00:00+00:00" := by decide +kernel
example : parseIso (isoformat 1700000000000001) = some 1700000000000001 := by decide +kernel

/-! ## Reading back -/

/-- A value of Python's `datetime`: the years run from 1 to 9999. -/
def IsDatetime (t : Instant) : Prop :=
  1 ≤ (civil (t / dayLength)).1 ∧ (civil (t / dayLength)).1 ≤ 9999

instance (t : Instant) : Decidable (IsDatetime t) := by
  unfold IsDatetime
  infer_instance

/-- A run of `n` decimal digits. -/
def Digits (n : ℕ) (l : List Char) : Prop := l.length = n ∧ ∀ c ∈ l, c.isDigit = true

theorem digits_pad {k : ℕ} (hk : 0 < k) {n : ℤ} (hn : n < 10 ^ k) : Digits k (pad k n) := by
  have hnat : n.toNat < 10 ^ k := by
    rw [Int.toNat_lt' (Nat.pow_pos (by decide))]
    exact_mod_cast hn
  have hlen : (Nat.toDigits 10 n.toNat).length ≤ k :=
    (Nat.length_toDigits_le_iff (by decide) hk).mpr hnat
  refine ⟨?_, fun c hc => ?_⟩
  · unfold pad
    rw [List.length_append, List.length_replicate]
    omega
  · rcases List.mem_append.mp hc with hc | hc
    · rw [List.eq_of_mem_replicate hc]
      decide
    · exact Nat.isDigit_of_mem_toDigits (by decide) (by decide) hc

theorem digit_bounds {c : Char} (hc : c.isDigit = true) : 48 ≤ c.toNat ∧ c.toNat ≤ 57 :=
  Char.isDigit_iff_toNat.mp hc

/-- A number with leading zeros has its value. -/
theorem ofDigitChars_pad (k : ℕ) (n : ℤ) : Nat.ofDigitChars 10 (pad k n) 0 = n.toNat := by
  unfold pad
  rw [Nat.ofDigitChars_append, Nat.ofDigitChars_replicate_zero, Nat.mul_zero,
    Nat.ofDigitChars_ten_toDigits]

theorem foldl_digits {l : List Char} (hl : ∀ c ∈ l, c.isDigit = true) (n : ℕ) :
    l.foldl (fun (n : ℤ) c => 10 * n + ((c.toNat : ℤ) - 48)) n = Nat.ofDigitChars 10 l n := by
  induction l generalizing n with
  | nil => simp
  | cons c l ih =>
    have hc := digit_bounds (hl c List.mem_cons_self)
    have hstep : 10 * (n : ℤ) + ((c.toNat : ℤ) - 48) = ((10 * n + (c.toNat - 48) : ℕ) : ℤ) := by
      omega
    rw [List.foldl_cons, hstep, ih fun d hd => hl d (List.mem_cons_of_mem c hd),
      Nat.ofDigitChars_cons]
    rfl

/-- A number with leading zeros is read back. -/
theorem number_pad {k : ℕ} (hk : 0 < k) {n : ℤ} (h0 : 0 ≤ n) (hn : n < 10 ^ k) :
    number (pad k n) = some n := by
  have h := digits_pad hk hn
  have hne : pad k n ≠ [] := by
    intro hnil
    have hlen := h.1
    rw [hnil] at hlen
    exact absurd hlen (Nat.ne_of_lt hk)
  have hfold := foldl_digits h.2 0
  rw [Nat.cast_zero] at hfold
  unfold number
  rw [if_pos ⟨hne, List.all_eq_true.mpr h.2⟩, hfold, ofDigitChars_pad, Int.toNat_of_nonneg h0]

/-- The parts of a date and a time of day are read back, each as its own number. -/
theorem assemble_eq {year month day hour minute second fraction : List Char}
    {y mo d h mi s u : ℤ} (hyear : Digits 4 year) (hmonth : Digits 2 month) (hhour : Digits 2 hour)
    (hminute : Digits 2 minute) (hy : number year = some y) (hmo : number month = some mo)
    (hd : number day = some d) (hh : number hour = some h) (hmi : number minute = some mi)
    (hs : number second = some s)
    (hu : fraction = [] ∧ u = 0 ∨ ∃ micros, number micros = some u ∧ fraction = '.' :: micros) :
    assemble (year ++ '-' :: (month ++ '-' :: day)) (hour ++ ':' :: (minute ++ ':' :: second))
      fraction = some (days (dayOf y mo d) + seconds (h * 3600 + mi * 60 + s) + u) := by
  have htake : ∀ {k : ℕ} {l : List Char} (rest : List Char), Digits k l → (l ++ rest).take k = l :=
    fun rest h => by rw [← h.1, List.take_left']; rfl
  have hdrop : ∀ {k : ℕ} {l : List Char} (c : Char) (rest : List Char), Digits k l →
      (l ++ c :: rest).drop (k + 1) = rest := by
    intro k l c rest h
    rw [← h.1, List.drop_append]
    simp
  have hdrop₂ : ∀ {k m : ℕ} {l l' : List Char} (c c' : Char) (rest : List Char), Digits k l →
      Digits m l' → (l ++ c :: (l' ++ c' :: rest)).drop (k + 1 + (m + 1)) = rest := by
    intro k m l l' c c' rest h h'
    rw [← List.drop_drop, hdrop c _ h, hdrop c' rest h']
  unfold assemble
  rw [htake _ hyear, hdrop _ _ hyear, htake _ hmonth, show (8 : ℕ) = 4 + 1 + (2 + 1) from rfl,
    hdrop₂ _ _ _ hyear hmonth, htake _ hhour, show (3 : ℕ) = 2 + 1 from rfl, hdrop _ _ hhour,
    htake _ hminute, show (6 : ℕ) = 2 + 1 + (2 + 1) from rfl, hdrop₂ _ _ _ hhour hminute, hy, hmo,
    hd, hh, hmi, hs]
  rcases hu with ⟨rfl, rfl⟩ | ⟨micros, hmicros, rfl⟩
  · rfl
  · show (do
      let micros ← number micros
      return days (dayOf y mo d) + seconds (h * 3600 + mi * 60 + s) + micros) = _
    rw [hmicros]
    rfl

/-- Every month has two digits and so has every day. -/
theorem civil_bounds (day : ℤ) :
    (0 ≤ (civil day).2.1 ∧ (civil day).2.1 < 100) ∧ 0 ≤ (civil day).2.2 ∧ (civil day).2.2 < 100 := by
  unfold civil
  dsimp only
  constructor
  · split
    · omega
    · omega
  · omega

theorem parseIso_ofList {date clock : List Char} (fraction : List Char) (hdate : date.length = 10)
    (hclock : clock.length = 8) :
    parseIso (String.ofList (date ++ 'T' :: (clock ++ (fraction ++ "+00:00".toList))))
      = assemble date clock fraction := by
  have hzone : "+00:00".toList.length = 6 := by decide
  have hsplit : date ++ 'T' :: (clock ++ (fraction ++ "+00:00".toList))
      = (date ++ 'T' :: (clock ++ fraction)) ++ "+00:00".toList := by
    rw [List.append_assoc, List.cons_append, List.append_assoc]
  have hlength : ((date ++ 'T' :: (clock ++ fraction)) ++ "+00:00".toList).length - 6
      = (date ++ 'T' :: (clock ++ fraction)).length := by
    rw [List.length_append, hzone, Nat.add_sub_cancel]
  have hclocked : (date ++ 'T' :: (clock ++ fraction)).drop 11 = clock ++ fraction := by
    rw [show (11 : ℕ) = date.length + 1 by rw [hdate], ← List.drop_drop, List.drop_left]
    rfl
  unfold parseIso
  dsimp only
  rw [String.toList_ofList, hsplit, hlength, List.drop_left, List.take_left, if_pos rfl, hclocked,
    show (19 : ℕ) = 11 + 8 from rfl, ← List.drop_drop, hclocked, ← hdate, List.take_left, ← hclock,
    List.take_left, List.drop_left]

/-- The fields of a text are cut where the text was put together. -/
theorem parseIso_isoformat_eq {t : Instant} (h : IsDatetime t) :
    parseIso (isoformat t) =
      assemble
        (pad 4 (civil (t / dayLength)).1 ++ '-' :: (pad 2 (civil (t / dayLength)).2.1 ++
          '-' :: pad 2 (civil (t / dayLength)).2.2))
        (pad 2 (t % dayLength / 1000000 / 3600) ++
          ':' :: (pad 2 (t % dayLength / 1000000 / 60 % 60) ++
            ':' :: pad 2 (t % dayLength / 1000000 % 60)))
        (if t % dayLength % 1000000 = 0 then [] else '.' :: pad 6 (t % dayLength % 1000000)) := by
  obtain ⟨⟨-, hmonth⟩, -, hday⟩ := civil_bounds (t / dayLength)
  have hyear : (civil (t / dayLength)).1 < 10000 := Int.lt_add_one_of_le h.2
  obtain ⟨rest, hrest⟩ : ∃ rest : ℤ, t % dayLength = rest := ⟨_, rfl⟩
  have hbound : rest < 86400000000 := hrest ▸ Int.emod_lt_of_pos t (by decide)
  have hy := digits_pad (k := 4) (by decide) hyear
  have hmo := digits_pad (k := 2) (by decide) hmonth
  have hd := digits_pad (k := 2) (by decide) hday
  have hh := digits_pad (k := 2) (by decide) (n := rest / 1000000 / 3600) (by omega)
  have hmi := digits_pad (k := 2) (by decide) (n := rest / 1000000 / 60 % 60) (by omega)
  have hs := digits_pad (k := 2) (by decide) (n := rest / 1000000 % 60) (by omega)
  unfold isoformat
  dsimp only
  rw [hrest]
  rw [← parseIso_ofList]
  · simp only [List.append_assoc, List.cons_append, List.nil_append]
  · simp only [List.length_append, List.length_cons, hy.1, hmo.1, hd.1]
  · simp only [List.length_append, List.length_cons, hh.1, hmi.1, hs.1]

/-- The instant that is read back, from the fields of the text. -/
theorem parseIso_isoformat_fields {t : Instant} (h : IsDatetime t) :
    parseIso (isoformat t) = some
      (days (dayOf (civil (t / dayLength)).1 (civil (t / dayLength)).2.1
          (civil (t / dayLength)).2.2) +
        seconds (t % dayLength / 1000000 / 3600 * 3600 + t % dayLength / 1000000 / 60 % 60 * 60 +
          t % dayLength / 1000000 % 60) + t % dayLength % 1000000) := by
  obtain ⟨⟨hmonth, hmonth'⟩, hday, hday'⟩ := civil_bounds (t / dayLength)
  have hyear : (civil (t / dayLength)).1 < 10000 := Int.lt_add_one_of_le h.2
  have hyear0 : 0 ≤ (civil (t / dayLength)).1 := Int.le_trans (by decide) h.1
  rw [parseIso_isoformat_eq h]
  obtain ⟨rest, hrest⟩ : ∃ rest : ℤ, t % dayLength = rest := ⟨_, rfl⟩
  rw [hrest]
  have hbound : rest < 86400000000 := hrest ▸ Int.emod_lt_of_pos t (by decide)
  have hbound0 : 0 ≤ rest := hrest ▸ Int.emod_nonneg t (by decide)
  apply assemble_eq (digits_pad (by decide) hyear) (digits_pad (by decide) hmonth')
  · exact digits_pad (by decide) (by omega)
  · exact digits_pad (by decide) (by omega)
  · exact number_pad (by decide) hyear0 hyear
  · exact number_pad (by decide) hmonth hmonth'
  · exact number_pad (by decide) hday hday'
  · exact number_pad (by decide) (by omega) (by omega)
  · exact number_pad (by decide) (by omega) (by omega)
  · exact number_pad (by decide) (by omega) (by omega)
  · by_cases hzero : rest % 1000000 = 0
    · exact Or.inl ⟨if_pos hzero, hzero⟩
    · exact Or.inr ⟨_, number_pad (by decide) (by omega) (by omega), if_neg hzero⟩

/-- **A datetime is read back** from its text. -/
theorem parseIso_isoformat {t : Instant} (h : IsDatetime t) : (parseIso (isoformat t)).isSome := by
  rw [parseIso_isoformat_fields h]
  rfl

end Timestamp

end ControlPlane

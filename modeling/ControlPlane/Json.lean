/-
# Compact JSON text

Values, the compact text of a value with every character outside printable ASCII
escaped, and a reader for that text.  The reader inverts the printer
(`loads_dumps`), so two values with the same text are the same value
(`dumps_injective`).

A float is written by a given format, whose text carries a mark that no integer
has; the reader tells the two kinds of number apart by the mark.
-/
import Mathlib.Data.List.Sort
import Mathlib.Data.Rat.Defs
import Mathlib.Tactic.FinCases

namespace Json

/-- A JSON value.  Integers and floats are different values. -/
inductive Value where
  | null
  | bool (b : Bool)
  | int (i : ℤ)
  | float (q : ℚ)
  | str (s : String)
  | arr (items : List Value)
  | obj (fields : List (String × Value))

/-! ## Characters of a string literal -/

/-- The four lower-case hexadecimal digits of a number below `16 ^ 4`. -/
def hex4 (n : ℕ) : List Char :=
  [Nat.digitChar (n / 4096), Nat.digitChar (n / 256 % 16), Nat.digitChar (n / 16 % 16),
    Nat.digitChar (n % 16)]

/-- The value of a hexadecimal digit. -/
def hexVal (c : Char) : ℕ := if c.toNat < 58 then c.toNat - 48 else c.toNat - 87

/-- The number of four hexadecimal digits. -/
def hex4Val (a b c d : Char) : ℕ :=
  hexVal a * 4096 + hexVal b * 256 + hexVal c * 16 + hexVal d

/-- `\uXXXX`. -/
def unicodeEscape (n : ℕ) : List Char := '\\' :: 'u' :: hex4 n

/-- The escapes of two characters. -/
def shortEscapes : List (Char × Char) :=
  [('"', '"'), ('\\', '\\'), ('\n', 'n'), ('\r', 'r'), ('\t', 't'), ('\x0c', 'f'), ('\x08', 'b')]

/-- One character inside a string literal. -/
def escapeChar (c : Char) : List Char :=
  match shortEscapes.lookup c with
  | some e => ['\\', e]
  | none =>
    if 32 ≤ c.toNat ∧ c.toNat ≤ 126 then [c]
    else if c.toNat < 65536 then unicodeEscape c.toNat
    -- a surrogate pair
    else unicodeEscape (55296 + (c.toNat - 65536) / 1024)
      ++ unicodeEscape (56320 + (c.toNat - 65536) % 1024)

/-- Read one character of a string literal. -/
def unescape : List Char → Option (Char × List Char)
  | '\\' :: 'u' :: a :: b :: c :: d :: r =>
    if 55296 ≤ hex4Val a b c d ∧ hex4Val a b c d < 56320 then
      match r with
      | '\\' :: 'u' :: a' :: b' :: c' :: d' :: r' =>
        some (Char.ofNat (65536 + (hex4Val a b c d - 55296) * 1024
          + (hex4Val a' b' c' d' - 56320)), r')
      | _ => none
    else some (Char.ofNat (hex4Val a b c d), r)
  | '\\' :: e :: r => (shortEscapes.find? (fun p => p.2 = e)).map (fun p => (p.1, r))
  | c :: r => some (c, r)
  | [] => none

theorem hexVal_digitChar (n : ℕ) (h : n < 16) : hexVal (Nat.digitChar n) = n := by
  revert h
  revert n
  decide

theorem hex4Val_hex4 (n : ℕ) (h : n < 65536) :
    hex4Val (Nat.digitChar (n / 4096)) (Nat.digitChar (n / 256 % 16))
      (Nat.digitChar (n / 16 % 16)) (Nat.digitChar (n % 16)) = n := by
  unfold hex4Val
  rw [hexVal_digitChar _ (by omega), hexVal_digitChar _ (by omega),
    hexVal_digitChar _ (by omega), hexVal_digitChar _ (by omega)]
  omega

/-- A code unit that does not start a surrogate pair is read back as its character. -/
theorem unescape_unicodeEscape (n : ℕ) (h : n < 65536) (hs : ¬ (55296 ≤ n ∧ n < 56320))
    (r : List Char) : unescape (unicodeEscape n ++ r) = some (Char.ofNat n, r) := by
  simp only [unicodeEscape, hex4, List.cons_append, List.nil_append, unescape]
  rw [hex4Val_hex4 n h, if_neg hs]

/-- A surrogate pair is read back as one character. -/
theorem unescape_surrogates (hi lo : ℕ) (h : hi < 1024) (h' : lo < 1024) (r : List Char) :
    unescape (unicodeEscape (55296 + hi) ++ unicodeEscape (56320 + lo) ++ r)
      = some (Char.ofNat (65536 + hi * 1024 + lo), r) := by
  simp only [unicodeEscape, hex4, List.cons_append, List.nil_append, unescape]
  rw [hex4Val_hex4 _ (by omega), hex4Val_hex4 _ (by omega), if_pos (by omega),
    Nat.add_sub_cancel_left, Nat.add_sub_cancel_left]

theorem toNat_valid (c : Char) : c.toNat < 55296 ∨ (57343 < c.toNat ∧ c.toNat < 1114112) :=
  c.valid

/-- **Reading undoes escaping, one character at a time.** -/
theorem unescape_escapeChar (c : Char) (r : List Char) :
    unescape (escapeChar c ++ r) = some (c, r) := by
  unfold escapeChar
  cases hlookup : shortEscapes.lookup c with
  | some e =>
    obtain ⟨l₁, l₂, hl, -⟩ := List.lookup_eq_some_iff.mp hlookup
    have hmem : (c, e) ∈ shortEscapes := by
      rw [hl]
      exact List.mem_append_right _ List.mem_cons_self
    fin_cases hmem <;> rfl
  | none =>
    have hvalid := toNat_valid c
    have hslash : c ≠ '\\' := by
      rintro rfl
      cases hlookup
    simp only
    split_ifs with hprint hbmp
    · rw [List.singleton_append]
      unfold unescape
      split <;> simp_all
    · rw [unescape_unicodeEscape _ hbmp (by omega), Char.ofNat_toNat]
    · rw [unescape_surrogates _ _ (by omega) (by omega)]
      have hsum : 65536 + (c.toNat - 65536) / 1024 * 1024 + (c.toNat - 65536) % 1024 = c.toNat := by
        omega
      rw [hsum, Char.ofNat_toNat]

/-- An escaped character does not start with the closing quote. -/
theorem escapeChar_head (c : Char) : ∃ d l, escapeChar c = d :: l ∧ d ≠ '"' := by
  unfold escapeChar
  cases hlookup : shortEscapes.lookup c with
  | some e => exact ⟨_, _, rfl, by decide⟩
  | none =>
    simp only
    split_ifs
    · refine ⟨c, [], rfl, ?_⟩
      rintro rfl
      cases hlookup
    · exact ⟨_, _, rfl, by decide⟩
    · exact ⟨_, _, rfl, by decide⟩

/-! ## String literals -/

/-- The characters of a literal with its closing quote. -/
def printChars : List Char → List Char
  | [] => ['"']
  | c :: cs => escapeChar c ++ printChars cs

/-- A string literal. -/
def printString (s : String) : List Char := '"' :: printChars s.toList

/-- Read the characters up to the closing quote, at most `n` of them. -/
def readChars : ℕ → List Char → Option (List Char × List Char)
  | 0, _ => none
  | _ + 1, '"' :: r => some ([], r)
  | n + 1, l => do
    let (c, r) ← unescape l
    let (cs, r') ← readChars n r
    return (c :: cs, r')

/-- A string literal and the rest of the text. -/
def readString (l : List Char) : Option (String × List Char) :=
  match l with
  | '"' :: r => (readChars l.length r).map (fun p => (String.ofList p.1, p.2))
  | _ => none

theorem readChars_printChars (cs r : List Char) (n : ℕ) (hn : cs.length < n) :
    readChars n (printChars cs ++ r) = some (cs, r) := by
  induction cs generalizing n with
  | nil =>
    obtain ⟨m, rfl⟩ : ∃ m, n = m + 1 := ⟨n - 1, by simp at hn; omega⟩
    rfl
  | cons c cs ih =>
    rw [List.length_cons] at hn
    obtain ⟨m, rfl⟩ : ∃ m, n = m + 1 := ⟨n - 1, by omega⟩
    obtain ⟨d, l, hd, hquote⟩ := escapeChar_head c
    have hread := unescape_escapeChar c (printChars cs ++ r)
    rw [printChars, List.append_assoc]
    rw [hd, List.cons_append] at hread ⊢
    rw [readChars]
    · rw [hread]
      show (readChars m (printChars cs ++ r) >>= fun p => some (c :: p.1, p.2)) = _
      rw [ih m (by omega)]
      rfl
    · intro r' h
      cases h
      exact hquote rfl

theorem length_le_printChars (cs : List Char) : cs.length < (printChars cs).length := by
  induction cs with
  | nil => exact Nat.zero_lt_one
  | cons c cs ih =>
    obtain ⟨d, l, hd, -⟩ := escapeChar_head c
    rw [printChars, hd, List.length_append, List.length_cons, List.length_cons]
    omega

theorem readString_printString (s : String) (r : List Char) :
    readString (printString s ++ r) = some (s, r) := by
  rw [printString, List.cons_append, readString, readChars_printChars]
  · rw [Option.map_some, String.ofList_toList]
  · have := length_le_printChars s.toList
    rw [List.length_cons, List.length_append]
    omega

/-! ## Numbers -/

/-- The characters of a number. -/
def isNumberChar (c : Char) : Bool := c.isDigit || c ∈ ['-', '+', '.', 'e']

/-- The characters that only the text of a float has. -/
def isMark (c : Char) : Bool := c ∈ ['.', 'e']

/-- A text format for floats. -/
structure FloatFormat where
  repr : ℚ → List Char
  read : List Char → Option ℚ
  read_repr : ∀ q, read (repr q) = some q
  repr_chars : ∀ q, ∀ c ∈ repr q, isNumberChar c = true
  repr_mark : ∀ q, ∃ c ∈ repr q, isMark c = true

/-- The digits of an integer. -/
def printInt (i : ℤ) : List Char :=
  if i < 0 then '-' :: Nat.toDigits 10 i.natAbs else Nat.toDigits 10 i.natAbs

/-- The integer of a text. -/
def readInt : List Char → ℤ
  | '-' :: ds => -(Nat.ofDigitChars 10 ds 0 : ℤ)
  | ds => (Nat.ofDigitChars 10 ds 0 : ℤ)

theorem isDigit_of_mem_toDigits {n : ℕ} {c : Char} (h : c ∈ Nat.toDigits 10 n) :
    c.isDigit = true :=
  Nat.isDigit_of_mem_toDigits (by decide) (by decide) h

theorem readInt_printInt (i : ℤ) : readInt (printInt i) = i := by
  unfold printInt
  split_ifs with h
  · rw [readInt, Nat.ofDigitChars_ten_toDigits]
    omega
  · have hhead : ∀ ds, Nat.toDigits 10 i.natAbs ≠ '-' :: ds := by
      intro ds hds
      have := isDigit_of_mem_toDigits (hds ▸ List.mem_cons_self : '-' ∈ Nat.toDigits 10 i.natAbs)
      exact absurd this (by decide)
    unfold readInt
    split
    · rename_i ds hds
      exact absurd hds (hhead ds)
    · rw [Nat.ofDigitChars_ten_toDigits]
      omega

theorem printInt_chars (i : ℤ) : ∀ c ∈ printInt i, isNumberChar c = true ∧ isMark c = false := by
  have hdigit : ∀ c, c.isDigit = true → isNumberChar c = true ∧ isMark c = false := by
    intro c hc
    refine ⟨by rw [isNumberChar, hc, Bool.true_or], ?_⟩
    rw [isMark, decide_eq_false_iff_not]
    intro hmem
    fin_cases hmem <;> exact absurd hc (by decide)
  intro c hc
  unfold printInt at hc
  split_ifs at hc
  · rcases List.mem_cons.mp hc with rfl | hc
    · decide
    · exact hdigit c (isDigit_of_mem_toDigits hc)
  · exact hdigit c (isDigit_of_mem_toDigits hc)

/-! ## Values -/

section Values

variable (fmt : FloatFormat)

mutual

/-- The compact text of a value. -/
def print : Value → List Char
  | .null => ['n', 'u', 'l', 'l']
  | .bool true => ['t', 'r', 'u', 'e']
  | .bool false => ['f', 'a', 'l', 's', 'e']
  | .int i => printInt i
  | .float q => fmt.repr q
  | .str s => printString s
  | .arr [] => ['[', ']']
  | .arr (v :: vs) => '[' :: (print v ++ printItems vs)
  | .obj [] => ['{', '}']
  | .obj ((k, v) :: fs) => '{' :: (printString k ++ ':' :: (print v ++ printFields fs))

/-- The items of an array after the first, with the closing bracket. -/
def printItems : List Value → List Char
  | [] => [']']
  | v :: vs => ',' :: (print v ++ printItems vs)

/-- The fields of an object after the first, with the closing brace. -/
def printFields : List (String × Value) → List Char
  | [] => ['}']
  | (k, v) :: fs => ',' :: (printString k ++ ':' :: (print v ++ printFields fs))

end

/-- Read a number: a mark makes it a float. -/
def readNumber (l : List Char) : Option (Value × List Char) :=
  if (l.takeWhile isNumberChar).any isMark then
    (fmt.read (l.takeWhile isNumberChar)).map (fun q => (.float q, l.dropWhile isNumberChar))
  else some (.int (readInt (l.takeWhile isNumberChar)), l.dropWhile isNumberChar)

mutual

/-- Read a value from the front of a text, with fuel for the nesting and the items. -/
def read : ℕ → List Char → Option (Value × List Char)
  | 0, _ => none
  | n + 1, l =>
    match l with
    | 'n' :: 'u' :: 'l' :: 'l' :: r => some (.null, r)
    | 't' :: 'r' :: 'u' :: 'e' :: r => some (.bool true, r)
    | 'f' :: 'a' :: 'l' :: 's' :: 'e' :: r => some (.bool false, r)
    | '"' :: _ => (readString l).map (fun p => (.str p.1, p.2))
    | '[' :: ']' :: r => some (.arr [], r)
    | '[' :: r => do
      let (v, r) ← read n r
      let (vs, r) ← readItems n r
      return (.arr (v :: vs), r)
    | '{' :: '}' :: r => some (.obj [], r)
    | '{' :: r => do
      let (f, r) ← readField n r
      let (fs, r) ← readFields n r
      return (.obj (f :: fs), r)
    | _ => readNumber fmt l

/-- The further items of an array. -/
def readItems : ℕ → List Char → Option (List Value × List Char)
  | 0, _ => none
  | n + 1, l =>
    match l with
    | ']' :: r => some ([], r)
    | ',' :: r => do
      let (v, r) ← read n r
      let (vs, r) ← readItems n r
      return (v :: vs, r)
    | _ => none

/-- A field of an object. -/
def readField : ℕ → List Char → Option ((String × Value) × List Char)
  | 0, _ => none
  | n + 1, l => do
    let (k, r) ← readString l
    match r with
    | ':' :: r => do
      let (v, r) ← read n r
      return ((k, v), r)
    | _ => none

/-- The further fields of an object. -/
def readFields : ℕ → List Char → Option (List (String × Value) × List Char)
  | 0, _ => none
  | n + 1, l =>
    match l with
    | '}' :: r => some ([], r)
    | ',' :: r => do
      let (f, r) ← readField n r
      let (fs, r) ← readFields n r
      return (f :: fs, r)
    | _ => none

end

/-- A text that ends a number: it is empty or starts with another character. -/
def Stops (r : List Char) : Prop := ∀ c ∈ r.head?, isNumberChar c = false

theorem takeWhile_append {l r : List Char} (hl : ∀ c ∈ l, isNumberChar c = true) (hr : Stops r) :
    (l ++ r).takeWhile isNumberChar = l ∧ (l ++ r).dropWhile isNumberChar = r := by
  have hr' : r.takeWhile isNumberChar = [] ∧ r.dropWhile isNumberChar = r := by
    cases r with
    | nil => exact ⟨rfl, rfl⟩
    | cons c r =>
      have hc : isNumberChar c = false := hr c rfl
      constructor
      · rw [List.takeWhile_cons, hc, if_neg Bool.false_ne_true]
      · rw [List.dropWhile_cons, hc, if_neg Bool.false_ne_true]
  constructor
  · rw [List.takeWhile_append_of_pos hl, hr'.1, List.append_nil]
  · rw [List.dropWhile_append_of_pos hl, hr'.2]

theorem readNumber_printInt (i : ℤ) {r : List Char} (hr : Stops r) :
    readNumber fmt (printInt i ++ r) = some (.int i, r) := by
  obtain ⟨htake, hdrop⟩ := takeWhile_append (fun c hc => (printInt_chars i c hc).1) hr
  have hmark : (printInt i).any isMark = false := by
    rw [List.any_eq_false]
    intro c hc
    rw [(printInt_chars i c hc).2]
    exact Bool.false_ne_true
  unfold readNumber
  rw [htake, hdrop, hmark, if_neg Bool.false_ne_true, readInt_printInt]

theorem readNumber_repr (q : ℚ) {r : List Char} (hr : Stops r) :
    readNumber fmt (fmt.repr q ++ r) = some (.float q, r) := by
  obtain ⟨htake, hdrop⟩ := takeWhile_append (fmt.repr_chars q) hr
  have hmark : (fmt.repr q).any isMark = true := List.any_eq_true.mpr (fmt.repr_mark q)
  unfold readNumber
  rw [htake, hdrop, hmark, if_pos rfl, fmt.read_repr]
  rfl

/-- A text that starts like a number is read as one. -/
theorem read_number (n : ℕ) {l : List Char} (hl : ∃ c t, l = c :: t ∧ isNumberChar c = true) :
    read fmt (n + 1) l = readNumber fmt l := by
  obtain ⟨c, t, rfl, hc⟩ := hl
  unfold read
  split <;> first | rfl | (rename_i h; cases h; exact absurd hc (by decide))

theorem printInt_head (i : ℤ) (r : List Char) :
    ∃ c t, printInt i ++ r = c :: t ∧ isNumberChar c = true := by
  cases h : printInt i with
  | nil =>
    unfold printInt at h
    split_ifs at h
    exact absurd h Nat.toDigits_ne_nil
  | cons c t => exact ⟨c, t ++ r, rfl, (printInt_chars i c (h ▸ List.mem_cons_self)).1⟩

theorem repr_head (q : ℚ) (r : List Char) :
    ∃ c t, fmt.repr q ++ r = c :: t ∧ isNumberChar c = true := by
  cases h : fmt.repr q with
  | nil =>
    obtain ⟨c, hc, -⟩ := fmt.repr_mark q
    rw [h] at hc
    cases hc
  | cons c t => exact ⟨c, t ++ r, rfl, fmt.repr_chars q c (h ▸ List.mem_cons_self)⟩

theorem printItems_stops (vs : List Value) (r : List Char) : Stops (printItems fmt vs ++ r) := by
  intro c hc
  cases vs <;> cases hc <;> decide

theorem printFields_stops (fs : List (String × Value)) (r : List Char) :
    Stops (printFields fmt fs ++ r) := by
  intro c hc
  cases fs with
  | nil => cases hc; decide
  | cons f fs => cases hc; decide

theorem readField_print {n : ℕ} (k : String) (v : Value) (r : List Char)
    (hv : read fmt n (print fmt v ++ r) = some (v, r)) :
    readField fmt (n + 1) (printString k ++ ':' :: (print fmt v ++ r)) = some ((k, v), r) := by
  unfold readField
  rw [readString_printString]
  show (read fmt n (print fmt v ++ r) >>= fun p => some ((k, p.1), p.2)) = _
  rw [hv]
  rfl

/-- The text of a value starts with a character that closes nothing. -/
theorem print_head (v : Value) : ∃ c t, print fmt v = c :: t ∧ c ≠ ']' := by
  have hnumber : ∀ l, (∃ c t, l ++ [] = c :: t ∧ isNumberChar c = true) →
      ∃ c t, l = c :: t ∧ c ≠ ']' := by
    rintro l ⟨c, t, hl, hc⟩
    rw [List.append_nil] at hl
    refine ⟨c, t, hl, ?_⟩
    rintro rfl
    exact absurd hc (by decide)
  match v with
  | .null => exact ⟨_, _, rfl, by decide⟩
  | .bool true => exact ⟨_, _, rfl, by decide⟩
  | .bool false => exact ⟨_, _, rfl, by decide⟩
  | .int i => exact hnumber _ (printInt_head i [])
  | .float q => exact hnumber _ (repr_head fmt q [])
  | .str s => exact ⟨_, _, rfl, by decide⟩
  | .arr [] => exact ⟨_, _, rfl, by decide⟩
  | .arr (_ :: _) => exact ⟨_, _, rfl, by decide⟩
  | .obj [] => exact ⟨_, _, rfl, by decide⟩
  | .obj ((_, _) :: _) => exact ⟨_, _, rfl, by decide⟩

/-- An opening bracket that is not closed at once is followed by the first item. -/
theorem read_arr (n : ℕ) {l r : List Char} {v : Value} {vs : List Value} {r' : List Char}
    (hl : ∃ c t, l = c :: t ∧ c ≠ ']') (hv : read fmt n l = some (v, r))
    (hvs : readItems fmt n r = some (vs, r')) :
    read fmt (n + 1) ('[' :: l) = some (.arr (v :: vs), r') := by
  obtain ⟨c, t, rfl, hc⟩ := hl
  unfold read
  split
  case h_5 h =>
    cases h
    exact absurd rfl hc
  case h_6 h =>
    cases h
    rw [hv]
    show (readItems fmt n r >>= fun p => some (Value.arr (v :: p.1), p.2)) = _
    rw [hvs]
    rfl
  case h_9 _ _ _ _ _ h _ _ => exact absurd rfl (h _)
  all_goals rename_i h; cases h

/-- An opening brace that is not closed at once is followed by the first field. -/
theorem read_obj (n : ℕ) {t r : List Char} {f : String × Value} {fs : List (String × Value)}
    {r' : List Char} (hf : readField fmt n ('"' :: t) = some (f, r))
    (hfs : readFields fmt n r = some (fs, r')) :
    read fmt (n + 1) ('{' :: '"' :: t) = some (.obj (f :: fs), r') := by
  show (readField fmt n ('"' :: t) >>= fun p =>
    readFields fmt n p.2 >>= fun q => some (Value.obj (p.1 :: q.1), q.2)) = _
  rw [hf]
  show (readFields fmt n r >>= fun p => some (Value.obj (f :: p.1), p.2)) = _
  rw [hfs]
  rfl

theorem readItems_cons (n : ℕ) {l r : List Char} {v : Value} {vs : List Value} {r' : List Char}
    (hv : read fmt n l = some (v, r)) (hvs : readItems fmt n r = some (vs, r')) :
    readItems fmt (n + 1) (',' :: l) = some (v :: vs, r') := by
  show (read fmt n l >>= fun p => readItems fmt n p.2 >>= fun q => some (p.1 :: q.1, q.2)) = _
  rw [hv]
  show (readItems fmt n r >>= fun p => some (v :: p.1, p.2)) = _
  rw [hvs]
  rfl

theorem readFields_cons (n : ℕ) {l r : List Char} {f : String × Value}
    {fs : List (String × Value)} {r' : List Char} (hf : readField fmt n l = some (f, r))
    (hfs : readFields fmt n r = some (fs, r')) :
    readFields fmt (n + 1) (',' :: l) = some (f :: fs, r') := by
  show (readField fmt n l >>= fun p =>
    readFields fmt n p.2 >>= fun q => some (p.1 :: q.1, q.2)) = _
  rw [hf]
  show (readFields fmt n r >>= fun p => some (f :: p.1, p.2)) = _
  rw [hfs]
  rfl

mutual

/-- **The reader inverts the printer**, for enough fuel and a text that ends a number. -/
theorem read_print : ∀ (v : Value) (n : ℕ) (r : List Char), (print fmt v).length ≤ n → Stops r →
    read fmt n (print fmt v ++ r) = some (v, r)
  | v, 0, r, hn, hr => by
    obtain ⟨c, t, h, -⟩ := print_head fmt v
    rw [h, List.length_cons] at hn
    omega
  | .null, n + 1, r, hn, hr => rfl
  | .bool true, n + 1, r, hn, hr => rfl
  | .bool false, n + 1, r, hn, hr => rfl
  | .int i, n + 1, r, hn, hr => by
    rw [print, read_number fmt n (printInt_head i r), readNumber_printInt fmt i hr]
  | .float q, n + 1, r, hn, hr => by
    rw [print, read_number fmt n (repr_head fmt q r), readNumber_repr fmt q hr]
  | .str s, n + 1, r, hn, hr => by
    show (readString (printString s ++ r)).map _ = _
    rw [readString_printString]
    rfl
  | .arr [], n + 1, r, hn, hr => rfl
  | .arr (v :: vs), n + 1, r, hn, hr => by
    rw [print, List.length_cons, List.length_append] at hn
    rw [print, List.cons_append, List.append_assoc]
    apply read_arr fmt n
    · obtain ⟨c, t, h, hc⟩ := print_head fmt v
      exact ⟨c, t ++ (printItems fmt vs ++ r), by rw [h, List.cons_append], hc⟩
    · exact read_print v n _ (by omega) (printItems_stops fmt vs r)
    · exact readItems_print vs n r (by omega) hr
  | .obj [], n + 1, r, hn, hr => rfl
  | .obj ((k, v) :: fs), n + 1, r, hn, hr => by
    simp only [print, printString, List.length_cons, List.length_append, List.cons_append,
      List.append_assoc] at hn ⊢
    obtain ⟨m, rfl⟩ : ∃ m, n = m + 1 := ⟨n - 1, by omega⟩
    apply read_obj fmt (m + 1)
    · exact readField_print fmt k v _ (read_print v m _ (by omega) (printFields_stops fmt fs r))
    · exact readFields_print fs (m + 1) r (by omega) hr

theorem readItems_print : ∀ (vs : List Value) (n : ℕ) (r : List Char),
    (printItems fmt vs).length ≤ n → Stops r →
    readItems fmt n (printItems fmt vs ++ r) = some (vs, r)
  | [], 0, r, hn, hr => absurd hn (by simp [printItems])
  | _ :: _, 0, r, hn, hr => absurd hn (by simp [printItems])
  | [], n + 1, r, hn, hr => rfl
  | v :: vs, n + 1, r, hn, hr => by
    rw [printItems, List.length_cons, List.length_append] at hn
    rw [printItems, List.cons_append, List.append_assoc]
    apply readItems_cons fmt n
    · exact read_print v n _ (by omega) (printItems_stops fmt vs r)
    · exact readItems_print vs n r (by omega) hr

theorem readFields_print : ∀ (fs : List (String × Value)) (n : ℕ) (r : List Char),
    (printFields fmt fs).length ≤ n → Stops r →
    readFields fmt n (printFields fmt fs ++ r) = some (fs, r)
  | [], 0, r, hn, hr => absurd hn (by simp [printFields])
  | (_, _) :: _, 0, r, hn, hr => absurd hn (by simp [printFields])
  | [], n + 1, r, hn, hr => rfl
  | (k, v) :: fs, n + 1, r, hn, hr => by
    simp only [printFields, List.length_cons, List.length_append, List.cons_append,
      List.append_assoc] at hn ⊢
    obtain ⟨m, rfl⟩ : ∃ m, n = m + 1 := ⟨n - 1, by omega⟩
    apply readFields_cons fmt (m + 1)
    · exact readField_print fmt k v _ (read_print v m _ (by omega) (printFields_stops fmt fs r))
    · exact readFields_print fs (m + 1) r (by omega) hr

end

/-- The fields of an object in the order of their keys. -/
def sortKeys (fields : List (String × Value)) : List (String × Value) :=
  fields.insertionSort (fun a b => a.1 ≤ b.1)

theorem eq_of_perm_of_keys {l l' : List (String × Value)} (h : l.Perm l')
    (hkeys : l.map Prod.fst = l'.map Prod.fst) (hnodup : (l.map Prod.fst).Nodup) : l = l' := by
  induction l generalizing l' with
  | nil => exact h.nil_eq
  | cons a t ih =>
    cases l' with
    | nil => exact absurd hkeys (by simp)
    | cons b t' =>
      rw [List.map_cons, List.map_cons, List.cons.injEq] at hkeys
      rw [List.map_cons, List.nodup_cons] at hnodup
      have hab : a = b := by
        rcases List.mem_cons.mp (h.subset List.mem_cons_self) with hab | hmem
        · exact hab
        · refine absurd ?_ hnodup.1
          rw [hkeys.2]
          exact List.mem_map_of_mem hmem
      subst hab
      rw [ih h.cons_inv hkeys.2 hnodup.2]

/-- Two objects with the same distinct keys that sort alike have the same fields. -/
theorem eq_of_sortKeys_eq {l l' : List (String × Value)} (h : sortKeys l = sortKeys l')
    (hkeys : l.map Prod.fst = l'.map Prod.fst) (hnodup : (l.map Prod.fst).Nodup) : l = l' := by
  refine eq_of_perm_of_keys ?_ hkeys hnodup
  have hl := List.perm_insertionSort (fun a b : String × Value => a.1 ≤ b.1) l
  have hl' := List.perm_insertionSort (fun a b : String × Value => a.1 ≤ b.1) l'
  rw [sortKeys, sortKeys] at h
  exact hl.symm.trans (h ▸ hl')

/-- The compact text of a value. -/
def dumps (v : Value) : String := String.ofList (print fmt v)

/-- Read a whole text. -/
def loads (text : String) : Option Value :=
  match read fmt text.toList.length text.toList with
  | some (v, []) => some v
  | _ => none

/-- **Round trip.** -/
theorem loads_dumps (v : Value) : loads fmt (dumps fmt v) = some v := by
  have hread := read_print fmt v (print fmt v).length [] le_rfl (by simp [Stops])
  rw [List.append_nil] at hread
  rw [loads, dumps, String.toList_ofList, hread]

/-- **Two values with the same text are the same value.** -/
theorem dumps_injective : Function.Injective (dumps fmt) := by
  intro v w h
  have hv := loads_dumps fmt v
  rw [h, loads_dumps, Option.some_inj] at hv
  exact hv.symm

end Values

end Json

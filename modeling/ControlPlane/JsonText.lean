/-
# JSON text with a blank after each separator

The text a printer with the separators `", "` and `": "` writes, and its reader: the
blanks after a separator are dropped outside the string literals, and the rest is the
compact text.  The reader inverts the printer (`loadsSpaced_dumpsSpaced`).
-/
import ControlPlane.Json

namespace Json

variable (fmt : FloatFormat)

/-! ## The printer -/

mutual

/-- The text of a value with a blank after each separator. -/
def printSpaced : Value → List Char
  | .null => print fmt .null
  | .bool b => print fmt (.bool b)
  | .int i => print fmt (.int i)
  | .float q => print fmt (.float q)
  | .str s => printString s
  | .arr [] => ['[', ']']
  | .arr (v :: vs) => '[' :: (printSpaced v ++ printSpacedItems vs)
  | .obj [] => ['{', '}']
  | .obj ((k, v) :: fs) =>
    '{' :: (printString k ++ ':' :: ' ' :: (printSpaced v ++ printSpacedFields fs))

/-- The further items of an array. -/
def printSpacedItems : List Value → List Char
  | [] => [']']
  | v :: vs => ',' :: ' ' :: (printSpaced v ++ printSpacedItems vs)

/-- The further fields of an object. -/
def printSpacedFields : List (String × Value) → List Char
  | [] => ['}']
  | (k, v) :: fs =>
    ',' :: ' ' :: (printString k ++ ':' :: ' ' :: (printSpaced v ++ printSpacedFields fs))

end

/-- A new line, indented by two blanks for each level. -/
def newLine (depth : ℕ) : List Char := '\n' :: List.replicate (2 * depth) ' '

mutual

/-- The text of a value over several lines, `indent=2`. -/
def printIndented (depth : ℕ) : Value → List Char
  | .null => print fmt .null
  | .bool b => print fmt (.bool b)
  | .int i => print fmt (.int i)
  | .float q => print fmt (.float q)
  | .str s => printString s
  | .arr [] => ['[', ']']
  | .arr (v :: vs) =>
    '[' :: (newLine (depth + 1) ++ printIndented (depth + 1) v ++ printIndentedItems depth vs)
  | .obj [] => ['{', '}']
  | .obj ((k, v) :: fs) =>
    '{' :: (newLine (depth + 1) ++ printString k ++ ':' :: ' ' :: (printIndented (depth + 1) v ++
      printIndentedFields depth fs))

/-- The further items of an array. -/
def printIndentedItems (depth : ℕ) : List Value → List Char
  | [] => newLine depth ++ [']']
  | v :: vs =>
    ',' :: (newLine (depth + 1) ++ printIndented (depth + 1) v ++ printIndentedItems depth vs)

/-- The further fields of an object. -/
def printIndentedFields (depth : ℕ) : List (String × Value) → List Char
  | [] => newLine depth ++ ['}']
  | (k, v) :: fs =>
    ',' :: (newLine (depth + 1) ++ printString k ++ ':' :: ' ' :: (printIndented (depth + 1) v ++
      printIndentedFields depth fs))

end

/-! ## The blanks after a separator -/

/-- The text without them.  The flag says whether the text starts inside a literal. -/
def unspace : Bool → List Char → List Char
  | _, [] => []
  | false, '"' :: r => '"' :: unspace true r
  | false, ',' :: ' ' :: r => ',' :: unspace false r
  | false, ':' :: ' ' :: r => ':' :: unspace false r
  | false, c :: r => c :: unspace false r
  | true, '\\' :: c :: r => '\\' :: c :: unspace true r
  | true, '"' :: r => '"' :: unspace false r
  | true, c :: r => c :: unspace true r

/-- The characters that matter outside a literal. -/
def isPlain (c : Char) : Prop := c ≠ '"' ∧ c ≠ ',' ∧ c ≠ ':'

theorem unspace_plain {c : Char} (hc : isPlain c) (r : List Char) :
    unspace false (c :: r) = c :: unspace false r := by
  obtain ⟨hquote, hcomma, hcolon⟩ := hc
  rw [unspace]
  · exact hquote
  · exact fun _ h _ => hcomma h
  · exact fun _ h _ => hcolon h

theorem unspace_plains {l : List Char} (hl : ∀ c ∈ l, isPlain c) (r : List Char) :
    unspace false (l ++ r) = l ++ unspace false r := by
  induction l with
  | nil => rfl
  | cons c l ih =>
    rw [List.cons_append, unspace_plain (hl c List.mem_cons_self),
      ih (fun d hd => hl d (List.mem_cons_of_mem c hd)), List.cons_append]

theorem isPlain_of_isNumberChar {c : Char} (hc : isNumberChar c = true) : isPlain c := by
  refine ⟨?_, ?_, ?_⟩ <;>
  · rintro rfl
    exact absurd hc (by decide)

/-! ## Inside a literal -/

theorem unspace_inside {c : Char} (hquote : c ≠ '"') (hslash : c ≠ '\\') (r : List Char) :
    unspace true (c :: r) = c :: unspace true r := by
  rw [unspace]
  · exact fun _ _ h _ => hslash h
  · exact hquote

/-- A hexadecimal digit is an ordinary character of a literal. -/
theorem unspace_digitChar {n : ℕ} (hn : n < 16) (r : List Char) :
    unspace true (Nat.digitChar n :: r) = Nat.digitChar n :: unspace true r := by
  have hdigit : ∀ m < 16, Nat.digitChar m ≠ '"' ∧ Nat.digitChar m ≠ '\\' := by decide
  exact unspace_inside (hdigit n hn).1 (hdigit n hn).2 r

theorem unspace_unicodeEscape {n : ℕ} (hn : n < 65536) (r : List Char) :
    unspace true (unicodeEscape n ++ r) = unicodeEscape n ++ unspace true r := by
  show '\\' :: 'u' :: unspace true (Nat.digitChar (n / 4096) :: Nat.digitChar (n / 256 % 16)
    :: Nat.digitChar (n / 16 % 16) :: Nat.digitChar (n % 16) :: r) = _
  rw [unspace_digitChar (by omega), unspace_digitChar (by omega), unspace_digitChar (by omega),
    unspace_digitChar (by omega)]
  rfl

theorem unspace_escapeChar (c : Char) (r : List Char) :
    unspace true (escapeChar c ++ r) = escapeChar c ++ unspace true r := by
  unfold escapeChar
  cases hlookup : shortEscapes.lookup c with
  | some e => rfl
  | none =>
    have hvalid := toNat_valid c
    have hquote : c ≠ '"' := by
      rintro rfl
      cases hlookup
    have hslash : c ≠ '\\' := by
      rintro rfl
      cases hlookup
    simp only
    split_ifs with hprint hbmp
    · exact unspace_inside hquote hslash r
    · exact unspace_unicodeEscape hbmp r
    · rw [List.append_assoc, unspace_unicodeEscape (by omega), unspace_unicodeEscape (by omega),
        List.append_assoc]

/-- A literal is left alone. -/
theorem unspace_printString (s : String) (r : List Char) :
    unspace false (printString s ++ r) = printString s ++ unspace false r := by
  have hchars : ∀ cs : List Char,
      unspace true (printChars cs ++ r) = printChars cs ++ unspace false r := by
    intro cs
    induction cs with
    | nil => rfl
    | cons c cs ih =>
      rw [printChars, List.append_assoc, unspace_escapeChar, ih, List.append_assoc]
  show '"' :: unspace true (printChars s.toList ++ r) = _
  rw [hchars]
  rfl

/-! ## The compact text is what remains -/

theorem unspace_printInt (i : ℤ) (r : List Char) :
    unspace false (printInt i ++ r) = printInt i ++ unspace false r :=
  unspace_plains (fun c hc => isPlain_of_isNumberChar (printInt_chars i c hc).1) r

theorem unspace_repr (q : ℚ) (r : List Char) :
    unspace false (fmt.repr q ++ r) = fmt.repr q ++ unspace false r :=
  unspace_plains (fun c hc => isPlain_of_isNumberChar (fmt.repr_chars q c hc)) r

mutual

theorem unspace_printSpaced : ∀ (v : Value) (r : List Char),
    unspace false (printSpaced fmt v ++ r) = print fmt v ++ unspace false r
  | .null, r => rfl
  | .bool true, r => rfl
  | .bool false, r => rfl
  | .int i, r => unspace_printInt i r
  | .float q, r => unspace_repr fmt q r
  | .str s, r => unspace_printString s r
  | .arr [], r => rfl
  | .arr (v :: vs), r => by
    show '[' :: unspace false (printSpaced fmt v ++ printSpacedItems fmt vs ++ r) = _
    rw [List.append_assoc, unspace_printSpaced v, unspace_printSpacedItems vs, print,
      List.cons_append, List.append_assoc]
  | .obj [], r => rfl
  | .obj ((k, v) :: fs), r => by
    show '{' :: unspace false (printString k ++
      ':' :: ' ' :: (printSpaced fmt v ++ printSpacedFields fmt fs) ++ r) = _
    rw [List.append_assoc, unspace_printString]
    show '{' :: (printString k ++
      ':' :: unspace false (printSpaced fmt v ++ printSpacedFields fmt fs ++ r)) = _
    rw [List.append_assoc, unspace_printSpaced v, unspace_printSpacedFields fs, print]
    simp only [List.cons_append, List.append_assoc]

theorem unspace_printSpacedItems : ∀ (vs : List Value) (r : List Char),
    unspace false (printSpacedItems fmt vs ++ r) = printItems fmt vs ++ unspace false r
  | [], r => rfl
  | v :: vs, r => by
    show ',' :: unspace false (printSpaced fmt v ++ printSpacedItems fmt vs ++ r) = _
    rw [List.append_assoc, unspace_printSpaced v, unspace_printSpacedItems vs, printItems,
      List.cons_append, List.append_assoc]

theorem unspace_printSpacedFields : ∀ (fs : List (String × Value)) (r : List Char),
    unspace false (printSpacedFields fmt fs ++ r) = printFields fmt fs ++ unspace false r
  | [], r => rfl
  | (k, v) :: fs, r => by
    show ',' :: unspace false (printString k ++
      ':' :: ' ' :: (printSpaced fmt v ++ printSpacedFields fmt fs) ++ r) = _
    rw [List.append_assoc, unspace_printString]
    show ',' :: (printString k ++
      ':' :: unspace false (printSpaced fmt v ++ printSpacedFields fmt fs ++ r)) = _
    rw [List.append_assoc, unspace_printSpaced v, unspace_printSpacedFields fs, printFields]
    simp only [List.cons_append, List.append_assoc]

end

/-! ## Whole texts -/

/-- The text of a value with a blank after each separator. -/
def dumpsSpaced (v : Value) : String := String.ofList (printSpaced fmt v)

/-- Read such a text. -/
def loadsSpaced (text : String) : Option Value :=
  loads fmt (String.ofList (unspace false text.toList))

/-- **Round trip with blanks.** -/
theorem loadsSpaced_dumpsSpaced (v : Value) :
    loadsSpaced fmt (dumpsSpaced fmt v) = some v := by
  have htext := unspace_printSpaced fmt v []
  rw [List.append_nil] at htext
  rw [loadsSpaced, dumpsSpaced, String.toList_ofList, htext]
  show loads fmt (String.ofList (print fmt v ++ [])) = some v
  rw [List.append_nil]
  exact loads_dumps fmt v

end Json

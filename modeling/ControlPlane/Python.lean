/-
# Values, numbers and text of the Python runtime

The governance engines are Python functions over values read from YAML files.
This module fixes how the model speaks about them: the scalars a parsed policy
file can hold (`Scalar`), the exceptions an engine can raise (`PyError`), the
conversions `int`, `float`, `str`, `list` and `bool`, and the string methods
`strip` and `lower`.

Integers are `ℤ` and floats are exact rationals.  What depends on tables of the
interpreter (Unicode case mapping, number and list formatting) is collected in
`PyRuntime`, with the facts the engines rely on as fields.
-/
import ControlPlane.Decimal
import ControlPlane.Json
import Mathlib.Data.Rat.Floor
import Mathlib.Data.List.DropRight
import Mathlib.Data.String.Basic

namespace ControlPlane

/-! ## Scalars and exceptions -/

/-- The Python exceptions an evaluation can raise. -/
inductive PyError where
  | keyError (key : String)
  | valueError (text : String)
  | typeError (text : String)
  | runtimeError (text : String)
  | permissionError (text : String)
  | authenticationError (text : String)
  | authorizationError (text : String)
  | httpException (status : ℕ) (detail : String)
  | storeUnavailable (text : String)
  | overflowError (text : String)
  deriving DecidableEq, Repr

/-- A value of a parsed policy file. -/
inductive Scalar where
  | str (s : String)
  | bool (b : Bool)
  | int (i : ℤ)
  | float (q : ℚ)
  | list (items : List String)
  deriving DecidableEq, Repr

/-- A Python dictionary with string keys. -/
abbrev Dict (α : Type) := String → Option α

/-- One entry of a policy file. -/
abbrev Entry := Dict Scalar

/-- The dictionary of a list of items. -/
def Dict.ofList {α : Type} (items : List (String × α)) : Dict α := fun key => items.lookup key

theorem Dict.mem_of_ofList {α : Type} {items : List (String × α)} {key : String} {v : α}
    (h : Dict.ofList items key = some v) : (key, v) ∈ items := by
  obtain ⟨l₁, l₂, rfl, -⟩ := List.lookup_eq_some_iff.mp h
  exact List.mem_append_right _ List.mem_cons_self

/-- `d.get(key, default)`. -/
def Dict.getD {α : Type} (d : Dict α) (key : String) (default : α) : α :=
  (d key).getD default

/-- `d[key]`. -/
def Dict.item {α : Type} (d : Dict α) (key : String) : Except PyError α :=
  match d key with
  | some v => .ok v
  | none => .error (.keyError key)

/-- The truth value of a scalar. -/
def Scalar.truthy : Scalar → Bool
  | .str s => s ≠ ""
  | .bool b => b
  | .int i => i ≠ 0
  | .float q => q ≠ 0
  | .list items => items ≠ []

/-- The truth value of a value read from JSON. -/
def jsonTruthy : Json.Value → Bool
  | .null => false
  | .bool b => b
  | .int i => i ≠ 0
  | .float q => q ≠ 0
  | .str s => s ≠ ""
  | .arr items => !items.isEmpty
  | .obj fields => !fields.isEmpty

/-- The truth value of `entry.get(key)`: a missing key is `None`. -/
def Entry.truthy (entry : Entry) (key : String) : Bool :=
  (entry key).elim false Scalar.truthy

/-- A computation that binds another succeeds exactly when both do. -/
theorem bind_eq_ok {ε α β : Type} {x : Except ε α} {f : α → Except ε β} {b : β} :
    (x >>= f) = .ok b ↔ ∃ a, x = .ok a ∧ f a = .ok b := by
  cases x <;> simp [bind, Except.bind]

theorem exists_ok_of_isOk {α : Type} (x : Except PyError α) (h : x.isOk = true) :
    ∃ a, x = .ok a := by
  cases x with
  | ok a => exact ⟨a, rfl⟩
  | error e => cases h

/-- The computation succeeds with a value that has the property. -/
def Yields {α : Type} (x : Except PyError α) (P : α → Prop) : Prop := ∃ a, x = .ok a ∧ P a

theorem yields_iff {α : Type} {x : Except PyError α} {a : α} (h : x = .ok a) (P : α → Prop) :
    Yields x P ↔ P a := by
  constructor
  · rintro ⟨b, hb, hP⟩
    rw [h, Except.ok.injEq] at hb
    rw [hb]
    exact hP
  · intro hP
    exact ⟨a, h, hP⟩

theorem pure_eq_ok {α : Type} {a b : α} : (pure a : Except PyError α) = .ok b ↔ a = b := by
  simp [pure, Except.pure]

/-- `[text] if c else []`, the pattern behind every list of reasons. -/
def reasonIf (c : Prop) [Decidable c] (text : String) : List String :=
  if c then [text] else []

@[simp] theorem reasonIf_eq_nil {c : Prop} [Decidable c] {text : String} :
    reasonIf c text = [] ↔ ¬ c := by
  unfold reasonIf
  split <;> simp_all

theorem reasonIf_ne_nil {c : Prop} [Decidable c] {text : String} :
    reasonIf c text ≠ [] ↔ c := by
  rw [ne_eq, reasonIf_eq_nil, not_not]

theorem append_reasonIf_ne_nil {l : List String} {c : Prop} [Decidable c] {text : String} :
    l ++ reasonIf c text ≠ [] ↔ l ≠ [] ∨ c := by
  rw [ne_eq, List.append_eq_nil_iff, reasonIf_eq_nil, not_and_or, not_not]

/-! ## Text -/

/-- The code points of `str.isspace`. -/
def isSpace (c : Char) : Bool :=
  [0x09, 0x0A, 0x0B, 0x0C, 0x0D, 0x1C, 0x1D, 0x1E, 0x1F, 0x20, 0x85, 0xA0, 0x1680,
    0x2000, 0x2001, 0x2002, 0x2003, 0x2004, 0x2005, 0x2006, 0x2007, 0x2008, 0x2009,
    0x200A, 0x2028, 0x2029, 0x202F, 0x205F, 0x3000].contains c.toNat

/-- Drop whitespace at both ends of a list of characters. -/
def stripChars (l : List Char) : List Char := (l.dropWhile isSpace).rdropWhile isSpace

/-- `s.strip()`. -/
def strip (s : String) : String := String.ofList (stripChars s.toList)

/-- `s.endswith(suffix)`. -/
def endsWith (s suffix : String) : Bool := suffix.toList.isSuffixOf s.toList

/-- `s.startswith(p)`. -/
def startsWith (s p : String) : Bool := p.toList.isPrefixOf s.toList

/-- `s[n:]`. -/
def dropChars (n : ℕ) (s : String) : String := String.ofList (s.toList.drop n)

/-- `[part.strip() for part in s.split(",") if part.strip()]`. -/
def splitCsv (s : String) : List String :=
  ((s.toList.splitOn ',').map (fun part => strip (String.ofList part))).filter (· ≠ "")

/-- A string of ASCII characters. -/
def IsAscii (s : String) : Prop := ∀ c ∈ s.toList, c.toNat < 128

instance (s : String) : Decidable (IsAscii s) :=
  List.decidableBAll (fun c : Char => c.toNat < 128) s.toList

/-- ASCII lower-casing. -/
def asciiLower (s : String) : String := String.ofList (s.toList.map Char.toLower)

/-! ## The interpreter's tables -/

/-- What the engines use of the interpreter and its Unicode database.  Unicode
lower-casing agrees with ASCII lower-casing on ASCII text, and the trimmed,
lower-cased form of a string is its own trimmed, lower-cased form. -/
structure PyRuntime where
  /-- `s.lower()` -/
  lower : String → String
  /-- `int(s)`, `none` when it raises `ValueError` -/
  intOfStr : String → Option ℤ
  /-- `float(s)`, `none` when it raises `ValueError` -/
  floatOfStr : String → Option ℚ
  /-- `repr(q)` of a float, and the reader of such texts -/
  floats : Json.FloatFormat
  /-- `str(items)` of a list of strings -/
  reprList : List String → String
  /-- `str(v)` of a list or a dictionary read from JSON -/
  reprJson : Json.Value → String
  /-- a float with a fixed number of decimals, `f"{q:.3f}"` -/
  fixed : ℕ → ℚ → String
  /-- `\d` -/
  isDigit : Char → Bool
  /-- `\w` -/
  isWord : Char → Bool
  /-- the characters that `re.IGNORECASE` identifies with a character -/
  caseVariants : Char → List Char
  lower_ascii : ∀ s, IsAscii s → lower s = asciiLower s
  lower_strip_idem : ∀ s, lower (strip (lower (strip s))) = lower (strip s)

namespace PyRuntime

variable (py : PyRuntime)

/-- `repr(q)` of a float. -/
def reprFloat (q : ℚ) : String := String.ofList (py.floats.repr q)

/-- `s.strip().lower()`. -/
def canonical (s : String) : String := py.lower (strip s)

@[simp] theorem canonical_canonical (s : String) :
    py.canonical (py.canonical s) = py.canonical s :=
  py.lower_strip_idem s

/-- An ASCII string that is already trimmed and lower-case is canonical. -/
theorem canonical_eq_self {s : String} (ha : IsAscii (strip s))
    (hs : asciiLower (strip s) = s) : py.canonical s = s := by
  rw [canonical, py.lower_ascii _ ha, hs]

/-- `str(v)`. -/
def str : Scalar → String
  | .str s => s
  | .bool b => if b then "True" else "False"
  | .int i => toString i
  | .float q => py.reprFloat q
  | .list items => py.reprList items

/-- `str(v)` of a value read from JSON. -/
def strJson : Json.Value → String
  | .null => "None"
  | .bool b => if b then "True" else "False"
  | .int i => toString i
  | .float q => py.reprFloat q
  | .str s => s
  | .arr items => py.reprJson (.arr items)
  | .obj fields => py.reprJson (.obj fields)

/-- `int(v)`: floats are truncated towards zero. -/
def int : Scalar → Except PyError ℤ
  | .str s => match py.intOfStr s with
    | some i => .ok i
    | none => .error (.valueError s)
  | .bool b => .ok (if b then 1 else 0)
  | .int i => .ok i
  | .float q => .ok (q.num.tdiv q.den)
  | .list _ => .error (.typeError "int() argument must be a string or a number")

/-- `float(v)`. -/
def float : Scalar → Except PyError ℚ
  | .str s => match py.floatOfStr s with
    | some q => .ok q
    | none => .error (.valueError s)
  | .bool b => .ok (if b then 1 else 0)
  | .int i => .ok i
  | .float q => .ok q
  | .list _ => .error (.typeError "float() argument must be a string or a number")

/-- `int(d[key])`. -/
def intItem (d : Entry) (key : String) : Except PyError ℤ := d.item key >>= py.int

/-- `float(d[key])`. -/
def floatItem (d : Entry) (key : String) : Except PyError ℚ := d.item key >>= py.float

end PyRuntime

/-- `list(v)`: a string is the list of its characters. -/
def Scalar.toList : Scalar → Except PyError (List String)
  | .str s => .ok (s.toList.map String.singleton)
  | .list items => .ok items
  | _ => .error (.typeError "object is not iterable")

/-- `isinstance(v, list) and item not in v` for `v = entry.get(key)`. -/
def Entry.listExcludes (entry : Entry) (key item : String) : Bool :=
  match entry key with
  | some (.list items) => item ∉ items
  | _ => false

/-- `isinstance(v, list) and v and item not in v` for `v = entry.get(key)`. -/
def Entry.nonemptyListExcludes (entry : Entry) (key item : String) : Bool :=
  match entry key with
  | some (.list items) => items ≠ [] ∧ item ∉ items
  | _ => false

/-! ## Trimming is idempotent and commutes with ASCII lower-casing -/

theorem stripChars_stripChars (l : List Char) : stripChars (stripChars l) = stripChars l := by
  have hhead : (stripChars l).dropWhile isSpace = stripChars l := by
    rw [List.dropWhile_eq_self_iff]
    intro hl
    have hpre : stripChars l <+: l.dropWhile isSpace := List.rdropWhile_prefix isSpace _
    have hlen : 0 < (l.dropWhile isSpace).length := hl.trans_le hpre.length_le
    rw [hpre.getElem hl]
    exact List.dropWhile_get_zero_not isSpace l hlen
  rw [stripChars, hhead]
  exact List.rdropWhile_idempotent isSpace _

@[simp] theorem strip_strip (s : String) : strip (strip s) = strip s := by
  rw [strip, strip, String.toList_ofList, stripChars_stripChars]

theorem toLower_eq_or (c : Char) : c.toLower = c ∨
    (65 ≤ c.toNat ∧ c.toNat ≤ 90 ∧ c.toLower.toNat = c.toNat + 32) := by
  unfold Char.toLower
  split
  · right
    rename_i h
    have h1 : 65 ≤ c.toNat := h.1
    have h2 : c.toNat ≤ 90 := h.2
    refine ⟨h1, h2, ?_⟩
    show (c.val + 32).toNat = c.toNat + 32
    have h3 : c.val.toNat = c.toNat := rfl
    have h4 : (32 : UInt32).toNat = 32 := rfl
    rw [UInt32.toNat_add, h3, h4]
    omega
  · left; rfl

theorem isSpace_eq_false {c : Char} (h1 : 32 < c.toNat) (h2 : c.toNat < 128) :
    isSpace c = false := by
  rw [isSpace, List.contains_eq_mem, decide_eq_false_iff_not]
  simp only [List.mem_cons, List.not_mem_nil, or_false]
  omega

theorem isSpace_toLower (c : Char) : isSpace c.toLower = isSpace c := by
  rcases toLower_eq_or c with h | ⟨h1, h2, h3⟩
  · rw [h]
  · rw [isSpace_eq_false (by omega) (by omega), isSpace_eq_false (by omega) (by omega)]

theorem toLower_toLower (c : Char) : c.toLower.toLower = c.toLower := by
  rcases toLower_eq_or c with h | ⟨h1, h2, h3⟩
  · rw [h, h]
  · rcases toLower_eq_or c.toLower with h | ⟨h4, h5, -⟩
    · exact h
    · omega

theorem stripChars_map {f : Char → Char} (hf : ∀ c, isSpace (f c) = isSpace c) (l : List Char) :
    stripChars (l.map f) = (stripChars l).map f := by
  have h : isSpace ∘ f = isSpace := funext hf
  rw [stripChars, stripChars, List.dropWhile_map, h, List.rdropWhile, ← List.map_reverse,
    List.dropWhile_map, h, ← List.map_reverse, List.rdropWhile]

theorem strip_asciiLower (s : String) : strip (asciiLower s) = asciiLower (strip s) := by
  rw [strip, asciiLower, asciiLower, strip, String.toList_ofList, String.toList_ofList,
    stripChars_map isSpace_toLower]

theorem asciiLower_asciiLower (s : String) : asciiLower (asciiLower s) = asciiLower s := by
  rw [asciiLower, asciiLower, String.toList_ofList, List.map_map]
  congr 1
  exact List.map_congr_left (fun c _ => toLower_toLower c)

/-! ## The ASCII runtime -/

/-- Floats in decimal notation. -/
def decimalFormat : Json.FloatFormat where
  repr := Decimal.render
  read := Decimal.parse
  read_repr := Decimal.parse_render
  repr_chars := by
    intro q c hc
    rw [Json.isNumberChar, Bool.or_eq_true, decide_eq_true_eq]
    rcases Decimal.render_chars q c hc with h | h
    · exact Or.inl h
    · right
      fin_cases h <;> decide
  repr_mark := by
    intro q
    rcases Decimal.render_mark q with h | h
    · exact ⟨'.', h, by decide⟩
    · exact ⟨'e', h, by decide⟩

/-- A runtime that knows ASCII only.  It answers as the interpreter does on the
ASCII inputs the concrete runs of this development use. -/
def PyRuntime.ascii : PyRuntime where
  lower := asciiLower
  intOfStr := String.toInt?
  floatOfStr := fun s => Decimal.parse s.toList
  floats := decimalFormat
  reprList := fun items => "[" ++ ", ".intercalate items ++ "]"
  reprJson := fun v => Json.dumps decimalFormat v
  fixed := fun digits q => toString (round (q * 10 ^ digits)) ++ "e-" ++ toString digits
  isDigit := Char.isDigit
  isWord := fun c => c.isAlphanum || c == '_'
  caseVariants := fun c => [c.toLower, c.toUpper]
  lower_ascii := fun _ _ => rfl
  lower_strip_idem := fun s => by
    rw [strip_asciiLower, strip_strip, asciiLower_asciiLower]

end ControlPlane

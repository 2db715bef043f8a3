/-
# Labels of the metric lines

`metrics_util.py` writes the labels of a sample as `{name="value",…}` and escapes each
value by three replacements over the whole string.  This module gives the reader of the
text format (`readLabels`) and shows that it gets back exactly the pairs that were
written, from one line, whatever the values are (`metricLabels_reads_back`).
-/
import ControlPlane.QuotedText
import Mathlib.Data.Int.Notation

namespace ControlPlane

open QuotedText

/-! ## The writer -/

/-- A label value, `str | int`. -/
inductive LabelValue where
  | str (s : String)
  | int (i : ℤ)
  deriving DecidableEq, Repr

/-- `str(value)`. -/
def LabelValue.text : LabelValue → List Char
  | .str s => s.toList
  | .int i => (toString i).toList

/-- `metric_label_value`: the text of a value with its escapes. -/
def metricLabelValue (value : LabelValue) : List Char :=
  replace '"' ['\\', '"'] (replace '\n' ['\\', 'n'] (replace '\\' ['\\', '\\'] value.text))

/-- `key="value"`. -/
def metricLabel (label : String × LabelValue) : List Char :=
  label.1.toList ++ '=' :: '"' :: (metricLabelValue label.2 ++ ['"'])

/-- The labels come from the keyword arguments, in their order. -/
def metricLabels (labels : List (String × LabelValue)) : List Char :=
  let rendered := [','].intercalate (labels.map metricLabel)
  if rendered ≠ [] then '{' :: (rendered ++ ['}']) else []

/-- `value` is the text of the number. -/
def metricLine (name : List Char) (value : List Char) (labels : List (String × LabelValue)) :
    List Char :=
  name ++ metricLabels labels ++ ' ' :: value

/-! ## The reader -/

/-- The literals of the text format: no raw line break, and the escapes `\\`, `\"` and
`\n`. -/
def labelLiteral : Dialect Char where
  mark := '"'
  raw c := if c = '\n' then none else some [c]
  escape
    | '\\' :: r => some (['\\'], r)
    | '"' :: r => some (['"'], r)
    | 'n' :: r => some (['\n'], r)
    | _ => none
  mark_ne := by decide
  shorter := by
    intro t u r h
    split at h <;> simp at h <;> simp [← h.2]

/-- The characters a name may have, first and later; the marks of the format are not among
them. -/
structure NameRule where
  first : Char → Bool
  later : Char → Bool
  plain : ∀ c, first c = true ∨ later c = true →
    c ∉ ['{', '}', '=', ',', '"', ' ', '\t', '\n']

/-- The text is a name under the rule. -/
def NameRule.IsIdentifier (rule : NameRule) (name : List Char) : Prop :=
  ∃ c cs, name = c :: cs ∧ rule.first c = true ∧ cs.all rule.later = true

/-- The label names of the text format. -/
def labelNames : NameRule where
  first c := c.isAlpha || c = '_'
  later c := c.isAlphanum || c = '_'
  plain := by
    intro c h hmem
    simp only [List.mem_cons, List.not_mem_nil, or_false] at hmem
    rcases hmem with rfl | rfl | rfl | rfl | rfl | rfl | rfl | rfl <;> revert h <;> decide

variable (rule : NameRule)

/-- What follows blanks and tabs. -/
def skipBlanks (t : List Char) : List Char := t.dropWhile fun c => c = ' ' || c = '\t'

/-- A name and the rest of the text. -/
def readName : List Char → Option (List Char × List Char)
  | [] => none
  | c :: t => if rule.first c then some (c :: t.takeWhile rule.later, t.dropWhile rule.later)
      else none

/-- One label: its name, its decoded value and the rest of the text. -/
def readLabel (t : List Char) : Option ((List Char × List Char) × List Char) :=
  (readName rule (skipBlanks t)).bind fun (name, r) =>
    match skipBlanks r with
    | '=' :: r =>
      match skipBlanks r with
      | '"' :: r => (read labelLiteral r).map fun (value, r) => ((name, value), r)
      | _ => none
    | _ => none

/-- The labels up to the closing brace; a comma may stand after the last one. -/
def readLabelList : ℕ → List Char → Option (List (List Char × List Char) × List Char)
  | 0, _ => none
  | n + 1, t =>
    match skipBlanks t with
    | '}' :: r => some ([], r)
    | t =>
      (readLabel rule t).bind fun (label, r) =>
        match skipBlanks r with
        | ',' :: r => (readLabelList n r).map fun (labels, r) => (label :: labels, r)
        | '}' :: r => some ([label], r)
        | _ => none

/-- The labels at the head of a text, none where it does not start with a brace. -/
def readLabels (t : List Char) : Option (List (List Char × List Char) × List Char) :=
  match t with
  | '{' :: r => readLabelList rule r.length r
  | t => some ([], t)

/-! ## One value -/

/-- What the three replacements make of one character. -/
def escapeChar (c : Char) : List Char :=
  if c = '\\' then ['\\', '\\'] else if c = '\n' then ['\\', 'n']
  else if c = '"' then ['\\', '"'] else [c]

/-- No replacement touches what an earlier one wrote. -/
theorem metricLabelValue_eq (value : LabelValue) :
    metricLabelValue value = value.text.flatMap escapeChar := by
  have hback : replace '\\' ['\\', '\\'] value.text =
      value.text.flatMap fun c => if c = '\\' then ['\\', '\\'] else [c] := rfl
  unfold metricLabelValue
  rw [hback, replace_flatMap, replace_flatMap]
  congr 1
  funext c
  unfold escapeChar
  by_cases h1 : c = '\\'
  · subst h1
    decide
  · by_cases h2 : c = '\n'
    · subst h2
      decide
    · by_cases h3 : c = '"'
      · subst h3
        decide
      · simp only [h1, h2, h3, if_false]
        rw [replace_cons_of_ne h2, replace_nil, replace_cons_of_ne h3, replace_nil]

theorem escapeChar_writes (c : Char) : Writes labelLiteral (escapeChar c) [c] := by
  unfold escapeChar
  by_cases h1 : c = '\\'
  · subst h1
    exact writes_escape fun t => rfl
  · by_cases h2 : c = '\n'
    · subst h2
      exact writes_escape fun t => rfl
    · by_cases h3 : c = '"'
      · subst h3
        exact writes_escape fun t => rfl
      · simp only [h1, h2, h3, if_false]
        have hraw : labelLiteral.raw c = some [c] := by simp [labelLiteral, h2]
        exact writes_raw h3 h1 hraw

theorem newline_not_mem_escapeChar (c : Char) : '\n' ∉ escapeChar c := by
  unfold escapeChar
  split
  · decide
  · split
    · decide
    · rename_i h2
      split
      · decide
      · simpa using fun h => h2 h.symm

/-- A written value is read back from in front of any text. -/
theorem read_metricLabelValue (value : LabelValue) (t : List Char) :
    read labelLiteral (metricLabelValue value ++ '"' :: t) = some (value.text, t) := by
  have h := read_flatMap value.text (fun c _ => escapeChar_writes c) t
  have hid : (value.text.flatMap fun c => [c]) = value.text := by simp
  rw [hid] at h
  rw [metricLabelValue_eq]
  exact h

theorem decode_metricLabelValue (value : LabelValue) :
    decode labelLiteral (metricLabelValue value) = some value.text := by
  unfold decode
  have h := read_metricLabelValue value []
  simp only [labelLiteral] at h ⊢
  rw [h]

theorem newline_not_mem_metricLabelValue (value : LabelValue) :
    '\n' ∉ metricLabelValue value := by
  rw [metricLabelValue_eq]
  intro h
  obtain ⟨c, -, hc⟩ := List.mem_flatMap.mp h
  exact newline_not_mem_escapeChar c hc

/-! ## The list of labels -/

variable {rule}

theorem skipBlanks_cons {c : Char} (h1 : c ≠ ' ') (h2 : c ≠ '\t') (t : List Char) :
    skipBlanks (c :: t) = c :: t := by
  simp [skipBlanks, h1, h2]

/-- A name is read up to a character that it cannot contain. -/
theorem readName_identifier {name : List Char} (hname : rule.IsIdentifier name) {c : Char}
    (hc : rule.later c = false) (t : List Char) :
    readName rule (name ++ c :: t) = some (name, c :: t) := by
  obtain ⟨a, as, rfl, ha, has⟩ := hname
  have hlater : ∀ x ∈ as, rule.later x = true := by simpa using has
  have htake : (as ++ c :: t).takeWhile rule.later = as := by
    rw [List.takeWhile_append_of_pos hlater]
    simp [hc]
  have hdrop : (as ++ c :: t).dropWhile rule.later = c :: t := by
    rw [List.dropWhile_append_of_pos hlater]
    simp [hc]
  simp only [List.cons_append, readName, ha, if_true, htake, hdrop]

/-- An identifier starts with none of the marks of the format. -/
theorem NameRule.IsIdentifier.head_plain {name : List Char} (hname : rule.IsIdentifier name) :
    ∃ c cs, name = c :: cs ∧ c ≠ ' ' ∧ c ≠ '\t' ∧ c ≠ '}' := by
  obtain ⟨c, cs, rfl, hc, -⟩ := hname
  have hplain := rule.plain c (Or.inl hc)
  simp only [List.mem_cons, List.not_mem_nil, or_false, not_or] at hplain
  exact ⟨c, cs, rfl, hplain.2.2.2.2.2.1, hplain.2.2.2.2.2.2.1, hplain.2.1⟩

theorem later_eq_false (c : Char) (hc : c ∈ ['{', '}', '=', ',', '"', ' ', '\t', '\n']) :
    rule.later c = false := by
  by_contra h
  exact rule.plain c (Or.inr (by simpa using h)) hc

/-- One written label is read back, with the text behind it. -/
theorem readLabel_metricLabel (label : String × LabelValue)
    (hname : rule.IsIdentifier label.1.toList) (t : List Char) :
    readLabel rule (metricLabel label ++ t) = some ((label.1.toList, label.2.text), t) := by
  obtain ⟨c, cs, hcons, hblank, htab, -⟩ := hname.head_plain
  have hskip : skipBlanks (metricLabel label ++ t) = metricLabel label ++ t := by
    unfold metricLabel
    rw [hcons]
    exact skipBlanks_cons hblank htab _
  have happ : metricLabel label ++ t =
      label.1.toList ++ '=' :: '"' :: (metricLabelValue label.2 ++ '"' :: t) := by
    simp [metricLabel]
  have heq : rule.later '=' = false := later_eq_false '=' (by decide)
  unfold readLabel
  rw [hskip, happ, readName_identifier hname heq]
  simp only [Option.bind_some]
  rw [skipBlanks_cons (by decide) (by decide)]
  simp only
  rw [skipBlanks_cons (by decide) (by decide)]
  simp only
  rw [read_metricLabelValue]
  rfl

/-- The pairs a list of labels stands for. -/
def labelPairs (labels : List (String × LabelValue)) : List (List Char × List Char) :=
  labels.map fun label => (label.1.toList, label.2.text)

/-- The step of the reader at a label that is not yet the closing brace. -/
theorem readLabelList_metricLabel (n : ℕ) (label : String × LabelValue)
    (hname : rule.IsIdentifier label.1.toList) (t : List Char) :
    readLabelList rule (n + 1) (metricLabel label ++ t) =
      match skipBlanks t with
      | ',' :: r => (readLabelList rule n r).map fun (labels, r) =>
          ((label.1.toList, label.2.text) :: labels, r)
      | '}' :: r => some ([(label.1.toList, label.2.text)], r)
      | _ => none := by
  obtain ⟨c, cs, hcons, hblank, htab, hbrace⟩ := hname.head_plain
  obtain ⟨u, hu⟩ : ∃ u, metricLabel label ++ t = c :: u := by
    unfold metricLabel
    rw [hcons]
    exact ⟨_, rfl⟩
  have hskip : skipBlanks (metricLabel label ++ t) = c :: u := by
    rw [hu]
    exact skipBlanks_cons hblank htab u
  have hread := readLabel_metricLabel label hname t
  conv_lhs => unfold readLabelList
  rw [hskip]
  split
  · rename_i r hr
    exact absurd (List.cons.inj hr).1 hbrace
  · rw [← hu, hread]
    rfl

theorem intercalate_metricLabels (label next : String × LabelValue)
    (labels : List (String × LabelValue)) :
    [','].intercalate ((label :: next :: labels).map metricLabel) =
      metricLabel label ++ ',' :: [','].intercalate ((next :: labels).map metricLabel) := by
  simp [List.intercalate]

/-- The run of the reader over the labels that are left, by induction on them. -/
theorem readLabelList_metricLabels (label : String × LabelValue)
    (labels : List (String × LabelValue))
    (hnames : ∀ l ∈ label :: labels, rule.IsIdentifier l.1.toList) (n : ℕ)
    (hn : labels.length < n) (t : List Char) :
    readLabelList rule n ([','].intercalate ((label :: labels).map metricLabel) ++ '}' :: t) =
      some (labelPairs (label :: labels), t) := by
  induction labels generalizing label n with
  | nil =>
      obtain ⟨m, rfl⟩ : ∃ m, n = m + 1 := ⟨n - 1, by omega⟩
      have hone : [','].intercalate ([label].map metricLabel) = metricLabel label := by
        simp [List.intercalate]
      rw [hone, readLabelList_metricLabel m label (hnames label List.mem_cons_self)]
      rw [skipBlanks_cons (by decide) (by decide)]
      rfl
  | cons next labels ih =>
      obtain ⟨m, rfl⟩ : ∃ m, n = m + 1 := ⟨n - 1, by omega⟩
      have hm : labels.length < m := by
        simp only [List.length_cons] at hn
        omega
      rw [intercalate_metricLabels, List.append_assoc,
        readLabelList_metricLabel m label (hnames label List.mem_cons_self)]
      rw [List.cons_append, skipBlanks_cons (by decide) (by decide)]
      simp only
      rw [ih next (fun l hl => hnames l (List.mem_cons_of_mem label hl)) m hm]
      rfl

theorem metricLabel_ne_nil (label : String × LabelValue) : metricLabel label ≠ [] := by
  simp [metricLabel]

theorem intercalate_ne_nil (label : String × LabelValue)
    (labels : List (String × LabelValue)) :
    [','].intercalate ((label :: labels).map metricLabel) ≠ [] := by
  cases labels with
  | nil => simp [List.intercalate, metricLabel_ne_nil]
  | cons next labels =>
      rw [intercalate_metricLabels]
      simp

theorem metricLabels_cons (label : String × LabelValue)
    (labels : List (String × LabelValue)) :
    metricLabels (label :: labels) =
      '{' :: ([','].intercalate ((label :: labels).map metricLabel) ++ ['}']) := by
  unfold metricLabels
  simp only [ne_eq, intercalate_ne_nil, not_false_eq_true, if_true]

theorem length_le_intercalate (label : String × LabelValue)
    (labels : List (String × LabelValue)) :
    labels.length ≤ ([','].intercalate ((label :: labels).map metricLabel)).length := by
  induction labels generalizing label with
  | nil => simp
  | cons next labels ih =>
      rw [intercalate_metricLabels]
      have h := ih next
      simp only [List.length_append, List.length_cons] at h ⊢
      omega

/-- The written labels are read back from in front of any text that does not start with a
brace. -/
theorem readLabels_metricLabels (labels : List (String × LabelValue))
    (hnames : ∀ l ∈ labels, rule.IsIdentifier l.1.toList) (t : List Char)
    (ht : t.head? ≠ some '{') :
    readLabels rule (metricLabels labels ++ t) = some (labelPairs labels, t) := by
  cases labels with
  | nil =>
      show readLabels rule t = some ([], t)
      unfold readLabels
      split
      · exact absurd rfl ht
      · rfl
  | cons label labels =>
      rw [metricLabels_cons]
      show readLabelList rule _ (_ ++ ['}'] ++ t) = _
      have h := length_le_intercalate label labels
      rw [List.append_assoc]
      refine readLabelList_metricLabels label labels hnames _ ?_ t
      show labels.length < (_ ++ ['}'] ++ t).length
      rw [List.length_append, List.length_append, List.length_singleton]
      omega

/-! ## One line -/

theorem NameRule.IsIdentifier.newline_not_mem {name : List Char}
    (hname : rule.IsIdentifier name) : '\n' ∉ name := by
  obtain ⟨c, cs, rfl, hc, hcs⟩ := hname
  intro h
  rcases List.mem_cons.mp h with rfl | h
  · exact rule.plain '\n' (Or.inl hc) (by decide)
  · have hlater : rule.later '\n' = true := List.all_eq_true.mp hcs '\n' h
    exact rule.plain '\n' (Or.inr hlater) (by decide)

theorem newline_not_mem_metricLabel (label : String × LabelValue)
    (hname : rule.IsIdentifier label.1.toList) : '\n' ∉ metricLabel label := by
  have h1 := hname.newline_not_mem
  have h2 := newline_not_mem_metricLabelValue label.2
  simp [metricLabel, h1, h2]

theorem newline_not_mem_metricLabels (labels : List (String × LabelValue))
    (hnames : ∀ l ∈ labels, rule.IsIdentifier l.1.toList) : '\n' ∉ metricLabels labels := by
  cases labels with
  | nil => simp [metricLabels, List.intercalate]
  | cons label labels =>
      rw [metricLabels_cons]
      have hlist : '\n' ∉ [','].intercalate ((label :: labels).map metricLabel) := by
        induction labels generalizing label with
        | nil =>
            have h := newline_not_mem_metricLabel label (hnames label List.mem_cons_self)
            simpa [List.intercalate] using h
        | cons next labels ih =>
            rw [intercalate_metricLabels]
            have h := newline_not_mem_metricLabel label (hnames label List.mem_cons_self)
            have hrest := ih next fun l hl => hnames l (List.mem_cons_of_mem label hl)
            intro hmem
            rcases List.mem_append.mp hmem with hmem | hmem
            · exact h hmem
            · rcases List.mem_cons.mp hmem with hmem | hmem
              · exact absurd hmem (by decide)
              · exact hrest hmem
      intro hmem
      rcases List.mem_cons.mp hmem with hmem | hmem
      · exact absurd hmem (by decide)
      · rcases List.mem_append.mp hmem with hmem | hmem
        · exact hlist hmem
        · exact absurd hmem (by decide)

/-- **Every label value comes back.**  A value decodes to itself and holds no raw line
break and no quote that ends it early; and the labels of a sample, whose names are
identifiers, are read back as exactly the pairs they were written from, on one line, alone
or in front of the value of the sample. -/
theorem metricLabels_reads_back (labels : List (String × LabelValue))
    (hnames : ∀ l ∈ labels, rule.IsIdentifier l.1.toList) :
    (∀ value, decode labelLiteral (metricLabelValue value) = some value.text ∧
        '\n' ∉ metricLabelValue value ∧
        ∀ t, read labelLiteral (metricLabelValue value ++ '"' :: t) = some (value.text, t)) ∧
      readLabels rule (metricLabels labels) = some (labelPairs labels, []) ∧
      (∀ name value, readLabels rule ((metricLine name value labels).drop name.length) =
        some (labelPairs labels, ' ' :: value)) ∧
      '\n' ∉ metricLabels labels := by
  refine ⟨fun value => ⟨decode_metricLabelValue value,
    newline_not_mem_metricLabelValue value, read_metricLabelValue value⟩, ?_, ?_,
    newline_not_mem_metricLabels labels hnames⟩
  · have h := readLabels_metricLabels labels hnames [] (by simp)
    rwa [List.append_nil] at h
  · intro name value
    have hdrop : (metricLine name value labels).drop name.length =
        metricLabels labels ++ ' ' :: value := by
      simp [metricLine, List.append_assoc]
    rw [hdrop]
    exact readLabels_metricLabels labels hnames (' ' :: value) (by simp)

/-- A team name that holds a whole forged sample stays one label value. -/
theorem metricLabels_reads_back_forged :
    readLabels labelNames
        (metricLabels [("team", .str "a\"\x7d 1\nup\x7bx=\"\\"), ("code", .int (-5))]) =
      some ([("team".toList, "a\"\x7d 1\nup\x7bx=\"\\".toList), ("code".toList, "-5".toList)], []) :=
  (@metricLabels_reads_back labelNames
    [("team", .str "a\"\x7d 1\nup\x7bx=\"\\"), ("code", .int (-5))] (by
      intro l hl
      simp only [List.mem_cons, List.not_mem_nil, or_false] at hl
      rcases hl with rfl | rfl
      · exact ⟨'t', ['e', 'a', 'm'], rfl, by decide, by decide⟩
      · exact ⟨'c', ['o', 'd', 'e'], rfl, by decide, by decide⟩)).2.1

end ControlPlane

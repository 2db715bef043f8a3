/-
# The PromQL queries of a request

`_build_prometheus_queries` puts the team and the model of a request into label literals.
Each query is compared with a template in which the two values stand as literals: a value
without a line break is written so that the query reads as its template
(`noInjection_iff`), and a line break, which `_escape_label` leaves alone, makes the
literal end nowhere.
-/
import ControlPlane.Python
import ControlPlane.QuotedText

namespace ControlPlane

open QuotedText

/-! ## The builder -/

/-- `_escape_label`. -/
def escapeLabel (value : List Char) : List Char :=
  replace '"' ['\\', '"'] (replace '\\' ['\\', '\\'] value)

/-- `_build_prometheus_queries`. -/
def buildPrometheusQueries (team model : String) : List (String × List Char) :=
  let teamLabel := escapeLabel team.toList
  let modelLabel := stripChars (escapeLabel model.toList)
  let rates :=
    if modelLabel ≠ [] then
      let modelFilter := "requested_model=\"".toList ++ modelLabel ++ "\"".toList
      let errorFilter := "outcome=\"error\",".toList ++ modelFilter
      ("sum(rate(gateway_chat_requests_total\x7b".toList ++ errorFilter ++ "\x7d[5m]))".toList,
        "sum(rate(gateway_chat_requests_total\x7b".toList ++ modelFilter ++ "\x7d[5m]))".toList)
    else
      ("sum(rate(gateway_chat_requests_total\x7boutcome=\"error\"\x7d[5m]))".toList,
        "sum(rate(gateway_chat_requests_total[5m]))".toList)
  let requestRate := rates.1
  let requestTotal := rates.2
  [("gateway_p95_latency_ms",
      "histogram_quantile(0.95, ".toList ++
        "sum(rate(gateway_chat_duration_seconds_bucket[5m])) by (le)) * 1000".toList),
    ("gateway_error_rate",
      requestRate ++ " / clamp_min(".toList ++ requestTotal ++ ", 1)".toList),
    ("governance_block_rate",
      "sum(rate(gateway_governance_decisions_total\x7bverdict=\"block\"\x7d[5m])) ".toList ++
        "/ clamp_min(sum(rate(gateway_governance_decisions_total[5m])), 1)".toList),
    ("tenant_request_rate",
      "sum(rate(gateway_tenant_requests_total\x7bteam=\"".toList ++ teamLabel ++
        "\"\x7d[5m]))".toList)]

/-! ## The lexical rules of PromQL -/

/-- The mark of a single-quoted string. -/
def apostrophe : Char := Char.ofNat 39

/-- The mark of a raw string. -/
def backquote : Char := Char.ofNat 96

/-- The value of a hexadecimal digit. -/
def digitValue (c : Char) : Option ℕ :=
  if c.isDigit then some (c.toNat - 48)
  else if 'a' ≤ c ∧ c ≤ 'f' then some (c.toNat - 87)
  else if 'A' ≤ c ∧ c ≤ 'F' then some (c.toNat - 55)
  else none

/-- The value of the next `n` digits and the rest of the text. -/
def readDigits (base : ℕ) : ℕ → ℕ → List Char → Option (ℕ × List Char)
  | 0, acc, t => some (acc, t)
  | _ + 1, _, [] => none
  | n + 1, acc, c :: t =>
    (digitValue c).bind fun v =>
      if v < base then readDigits base n (acc * base + v) t else none

theorem readDigits_length (base : ℕ) {n acc : ℕ} {t : List Char} {v : ℕ} {r : List Char}
    (h : readDigits base n acc t = some (v, r)) : r.length + n = t.length := by
  induction n generalizing acc t with
  | zero =>
      simp only [readDigits, Option.some.injEq, Prod.mk.injEq] at h
      rw [← h.2]
      omega
  | succ n ih =>
      cases t with
      | nil => simp [readDigits] at h
      | cons c t =>
          simp only [readDigits] at h
          obtain ⟨w, -, h⟩ := Option.bind_eq_some_iff.mp h
          split at h
          · have hlen := ih h
            simp only [List.length_cons]
            omega
          · simp at h

/-- The bytes of a code point that an escape names; a surrogate is none. -/
def codePoint (v : ℕ) : Option (List UInt8) :=
  if v.isValidChar then some (String.utf8EncodeChar (Char.ofNat v)) else none

/-- The byte that an octal or a hexadecimal escape names. -/
def oneByte (v : ℕ) : Option (List UInt8) := if v ≤ 255 then some [v.toUInt8] else none

/-- `digits` of base `base` from the head of the text, as bytes. -/
def numericEscape (base digits : ℕ) (bytes : ℕ → Option (List UInt8)) (t : List Char) :
    Option (List UInt8 × List Char) :=
  (readDigits base digits 0 t).bind fun p => (bytes p.1).map fun u => (u, p.2)

theorem numericEscape_length {base digits : ℕ} {bytes : ℕ → Option (List UInt8)}
    {t : List Char} {u : List UInt8} {r : List Char}
    (h : numericEscape base digits bytes t = some (u, r)) : r.length + digits = t.length := by
  obtain ⟨p, hp, h⟩ := Option.bind_eq_some_iff.mp h
  obtain ⟨w, -, h⟩ := Option.map_eq_some_iff.mp h
  rw [← (Prod.mk.inj h).2]
  exact readDigits_length base hp

/-- The escapes of one character: the mark itself, the backslash and the control
characters with a letter. -/
def letterEscape (mark c : Char) : Option (List UInt8) :=
  if c = mark ∨ c = '\\' then some (String.utf8EncodeChar c)
  else ([('a', 7), ('b', 8), ('f', 12), ('n', 10), ('r', 13), ('t', 9), ('v', 11)].lookup c).map
    fun byte => [byte]

/-- The escapes of a literal: the ones of one character, and the numeric ones. -/
def promEscape (mark : Char) : List Char → Option (List UInt8 × List Char)
  | [] => none
  | c :: t =>
    match letterEscape mark c with
    | some bytes => some (bytes, t)
    | none =>
      if c = 'x' then numericEscape 16 2 oneByte t
      else if c = 'u' then numericEscape 16 4 codePoint t
      else if c = 'U' then numericEscape 16 8 codePoint t
      else if c.isDigit then numericEscape 8 3 oneByte (c :: t)
      else none

theorem promEscape_shorter {mark : Char} {t : List Char} {u : List UInt8} {r : List Char}
    (h : promEscape mark t = some (u, r)) : r.length < t.length := by
  cases t with
  | nil => simp [promEscape] at h
  | cons c t =>
      have hnumeric : ∀ base digits bytes, numericEscape base digits bytes t = some (u, r) →
          r.length < (c :: t).length := by
        intro base digits bytes hn
        have hlen := numericEscape_length hn
        simp only [List.length_cons]
        omega
      unfold promEscape at h
      simp only at h
      split at h
      · simp only [Option.some.injEq, Prod.mk.injEq] at h
        rw [← h.2]
        simp
      · split_ifs at h
        · exact hnumeric _ _ _ h
        · exact hnumeric _ _ _ h
        · exact hnumeric _ _ _ h
        · have hlen := numericEscape_length h
          omega

/-- The literals between double marks, or between single ones.  A line break may not stand
in them. -/
def promLiteral (single : Bool) : Dialect UInt8 where
  mark := if single then apostrophe else '"'
  raw c := if c = '\n' then none else some (String.utf8EncodeChar c)
  escape := promEscape (if single then apostrophe else '"')
  mark_ne := by cases single <;> decide
  shorter := promEscape_shorter

/-- What stands in a query: characters outside literals, and literals by their value. -/
inductive Token where
  | char (c : Char)
  | literal (bytes : List UInt8)
  deriving DecidableEq, Repr

/-- The UTF-8 text of a value. -/
def utf8 (s : List Char) : List UInt8 := s.flatMap String.utf8EncodeChar

/-- Scans a query.  Each round uses one unit of the fuel. -/
def scanUpto : ℕ → List Char → Option (List Token)
  | _, [] => some []
  | 0, _ :: _ => none
  | n + 1, c :: t =>
    if c = '"' then
      (read (promLiteral false) t).bind fun p =>
        (scanUpto n p.2).map fun tokens => .literal p.1 :: tokens
    else if c = apostrophe then
      (read (promLiteral true) t).bind fun p =>
        (scanUpto n p.2).map fun tokens => .literal p.1 :: tokens
    else if c = backquote then
      -- a raw literal has no escapes and ends at the next mark
      match t.dropWhile (· ≠ backquote) with
      | [] => none
      | _ :: r => (scanUpto n r).map fun tokens =>
          .literal (utf8 (t.takeWhile (· ≠ backquote))) :: tokens
    else if c = '#' then scanUpto n (t.dropWhile (· ≠ '\n'))
    else (scanUpto n t).map fun tokens => .char c :: tokens

/-- The tokens of a query, `none` where a literal is ill-formed. -/
def scan (t : List Char) : Option (List Token) := scanUpto t.length t

theorem length_dropWhile_le {p : Char → Bool} (t : List Char) :
    (t.dropWhile p).length ≤ t.length := (List.dropWhile_sublist p).length_le

theorem scanUpto_eq_of_le (n m : ℕ) (t : List Char) (hn : t.length ≤ n) (hm : t.length ≤ m) :
    scanUpto n t = scanUpto m t := by
  induction n generalizing m t with
  | zero =>
      have ht : t = [] := List.eq_nil_of_length_eq_zero (by omega)
      subst ht
      cases m <;> rfl
  | succ n ih =>
      cases t with
      | nil => cases m <;> rfl
      | cons c t =>
          obtain ⟨m, rfl⟩ : ∃ k, m = k + 1 := ⟨m - 1, by simp at hm; omega⟩
          simp only [List.length_cons] at hn hm
          have hrest : ∀ r : List Char, r.length ≤ t.length → scanUpto n r = scanUpto m r :=
            fun r hr => ih m r (by omega) (by omega)
          have hread : ∀ d : Dialect UInt8,
              ((read d t).bind fun p =>
                (scanUpto n p.2).map fun tokens => Token.literal p.1 :: tokens) =
              (read d t).bind fun p =>
                (scanUpto m p.2).map fun tokens => Token.literal p.1 :: tokens := by
            intro d
            refine Option.bind_congr fun p hp => ?_
            have hlt := read_shorter d (v := p.1) (r := p.2) hp
            rw [hrest p.2 (by omega)]
          unfold scanUpto
          rw [hread, hread, hrest t (Nat.le_refl _),
            hrest (t.dropWhile (· ≠ '\n')) (length_dropWhile_le t)]
          -- only the raw literal is left
          split_ifs
          · rfl
          · rfl
          · cases hdrop : t.dropWhile (· ≠ backquote) with
            | nil => rfl
            | cons b r =>
                have hle := length_dropWhile_le (p := (· ≠ backquote)) t
                rw [hdrop, List.length_cons] at hle
                simp only
                rw [hrest r (by omega)]
          · rfl
          · rfl

theorem scanUpto_eq {n : ℕ} {t : List Char} (hn : t.length ≤ n) : scanUpto n t = scan t :=
  scanUpto_eq_of_le n t.length t hn (Nat.le_refl _)

/-- The characters that start no literal and no comment. -/
def IsPlainChar (c : Char) : Prop := c ≠ '"' ∧ c ≠ apostrophe ∧ c ≠ backquote ∧ c ≠ '#'

instance (c : Char) : Decidable (IsPlainChar c) := by unfold IsPlainChar; infer_instance

theorem scan_char {c : Char} (hc : IsPlainChar c) (t : List Char) :
    scan (c :: t) = (scan t).map fun tokens => .char c :: tokens := by
  obtain ⟨h1, h2, h3, h4⟩ := hc
  show scanUpto (t.length + 1) (c :: t) = _
  simp only [scanUpto, h1, h2, h3, h4, if_false]
  rfl

theorem scan_quote (t : List Char) :
    scan ('"' :: t) = (read (promLiteral false) t).bind fun p =>
      (scan p.2).map fun tokens => .literal p.1 :: tokens := by
  show scanUpto (t.length + 1) ('"' :: t) = _
  simp only [scanUpto, if_true]
  refine Option.bind_congr fun p hp => ?_
  have hlt := read_shorter _ (v := p.1) (r := p.2) hp
  rw [scanUpto_eq (by omega)]

theorem scan_text {s : List Char} (hs : ∀ c ∈ s, IsPlainChar c) (t : List Char) :
    scan (s ++ t) = (scan t).map fun tokens => s.map .char ++ tokens := by
  induction s with
  | nil => simp
  | cons c s ih =>
      have hrest := ih fun d hd => hs d (List.mem_cons_of_mem c hd)
      rw [List.cons_append, scan_char (hs c List.mem_cons_self), hrest, Option.map_map]
      rfl

/-! ## One label value -/

/-- What the two replacements make of one character. -/
def escapeLabelChar (c : Char) : List Char :=
  if c = '\\' then ['\\', '\\'] else if c = '"' then ['\\', '"'] else [c]

theorem escapeLabel_eq (value : List Char) :
    escapeLabel value = value.flatMap escapeLabelChar := by
  have hback : replace '\\' ['\\', '\\'] value =
      value.flatMap fun c => if c = '\\' then ['\\', '\\'] else [c] := rfl
  unfold escapeLabel
  rw [hback, replace_flatMap]
  congr 1
  funext c
  unfold escapeLabelChar
  by_cases h1 : c = '\\'
  · subst h1
    decide
  · by_cases h2 : c = '"'
    · subst h2
      decide
    · simp only [h1, h2, if_false]
      rw [replace_cons_of_ne h2, replace_nil]

theorem escapeLabelChar_writes {c : Char} (hc : c ≠ '\n') :
    Writes (promLiteral false) (escapeLabelChar c) (String.utf8EncodeChar c) := by
  unfold escapeLabelChar
  by_cases h1 : c = '\\'
  · subst h1
    exact writes_escape fun t => rfl
  · by_cases h2 : c = '"'
    · subst h2
      exact writes_escape fun t => rfl
    · simp only [h1, h2, if_false]
      have hraw : (promLiteral false).raw c = some (String.utf8EncodeChar c) := by
        simp [promLiteral, hc]
      exact writes_raw h2 h1 hraw

theorem newline_spoils : Spoils (promLiteral false) (escapeLabelChar '\n') :=
  spoils_raw (by decide) (by decide) (by decide)

/-- A value without a line break is read back from in front of any text. -/
theorem read_escapeLabel {value : List Char} (h : '\n' ∉ value) (t : List Char) :
    read (promLiteral false) (escapeLabel value ++ '"' :: t) = some (utf8 value, t) := by
  rw [escapeLabel_eq]
  have hwrites : ∀ c ∈ value,
      Writes (promLiteral false) (escapeLabelChar c) (String.utf8EncodeChar c) := by
    intro c hc
    apply escapeLabelChar_writes
    intro heq
    subst heq
    exact h hc
  exact read_flatMap value hwrites t

/-- A line break in the value leaves the literal without an end. -/
theorem read_escapeLabel_newline {value : List Char} (h : '\n' ∈ value) (t : List Char) :
    read (promLiteral false) (escapeLabel value ++ t) = none := by
  rw [escapeLabel_eq]
  have hcases : ∀ c ∈ value,
      Writes (promLiteral false) (escapeLabelChar c) (String.utf8EncodeChar c) ∨
        Spoils (promLiteral false) (escapeLabelChar c) := by
    intro c _
    by_cases hc : c = '\n'
    · right
      rw [hc]
      exact newline_spoils
    · left
      exact escapeLabelChar_writes hc
  exact read_flatMap_none value hcases ⟨'\n', h, newline_spoils⟩ t

/-! ## Escaping and stripping -/

theorem isSpace_escapeLabelChar {c : Char} (hc : isSpace c = true) :
    escapeLabelChar c = [c] := by
  have h1 : c ≠ '\\' := by
    intro h
    subst h
    revert hc
    decide
  have h2 : c ≠ '"' := by
    intro h
    subst h
    revert hc
    decide
  simp [escapeLabelChar, h1, h2]

theorem escapeLabelChar_not_space {c : Char} (hc : isSpace c = false) :
    ∀ x ∈ escapeLabelChar c, isSpace x = false := by
  intro x hx
  unfold escapeLabelChar at hx
  split at hx
  · have hx' : x = '\\' := by simpa using hx
    subst hx'
    decide
  · split at hx
    · have hx' : x = '\\' ∨ x = '"' := by simpa using hx
      rcases hx' with rfl | rfl
      · decide
      · decide
    · rw [List.mem_singleton.mp hx]
      exact hc

theorem dropWhile_flatMap_escape {enc : Char → List Char}
    (hspace : ∀ c, isSpace c = true → enc c = [c])
    (hother : ∀ c, isSpace c = false → enc c ≠ [] ∧ ∀ x ∈ enc c, isSpace x = false)
    (s : List Char) :
    (s.flatMap enc).dropWhile isSpace = (s.dropWhile isSpace).flatMap enc := by
  induction s with
  | nil => rfl
  | cons c s ih =>
      by_cases hc : isSpace c = true
      · rw [List.flatMap_cons, hspace c hc, List.singleton_append,
          List.dropWhile_cons_of_pos hc, List.dropWhile_cons_of_pos hc, ih]
      · have hfalse : isSpace c = false := by simpa using hc
        obtain ⟨hne, hall⟩ := hother c hfalse
        obtain ⟨x, xs, hx⟩ := List.exists_cons_of_ne_nil hne
        have hxspace : ¬ isSpace x = true := by
          rw [hall x (by rw [hx]; exact List.mem_cons_self)]
          decide
        rw [List.dropWhile_cons_of_neg hc, List.flatMap_cons, hx, List.cons_append,
          List.dropWhile_cons_of_neg hxspace]

/-- Stripping the escaped text is escaping the stripped one. -/
theorem stripChars_escapeLabel (value : List Char) :
    stripChars (escapeLabel value) = escapeLabel (stripChars value) := by
  have hother : ∀ c, isSpace c = false →
      escapeLabelChar c ≠ [] ∧ ∀ x ∈ escapeLabelChar c, isSpace x = false := by
    intro c hc
    refine ⟨?_, escapeLabelChar_not_space hc⟩
    unfold escapeLabelChar
    split_ifs <;> simp
  have hrevspace : ∀ c, isSpace c = true → (escapeLabelChar c).reverse = [c] := by
    intro c hc
    rw [isSpace_escapeLabelChar hc]
    rfl
  have hrevother : ∀ c, isSpace c = false →
      (escapeLabelChar c).reverse ≠ [] ∧
        ∀ x ∈ (escapeLabelChar c).reverse, isSpace x = false := by
    intro c hc
    simpa using hother c hc
  unfold stripChars
  rw [escapeLabel_eq, escapeLabel_eq,
    dropWhile_flatMap_escape (fun c hc => isSpace_escapeLabelChar hc) hother]
  unfold List.rdropWhile
  rw [List.reverse_flatMap]
  show (((value.dropWhile isSpace).reverse.flatMap
    fun c => (escapeLabelChar c).reverse).dropWhile isSpace).reverse = _
  rw [dropWhile_flatMap_escape hrevspace hrevother, List.reverse_flatMap]
  congr 1
  funext c
  exact List.reverse_reverse (escapeLabelChar c)

theorem escapeLabel_eq_nil {value : List Char} : escapeLabel value = [] ↔ value = [] := by
  rw [escapeLabel_eq]
  constructor
  · intro h
    cases value with
    | nil => rfl
    | cons c s =>
        rw [List.flatMap_cons, List.append_eq_nil_iff] at h
        have hne : escapeLabelChar c ≠ [] := by
          unfold escapeLabelChar
          split_ifs <;> simp
        exact absurd h.1 hne
  · intro h
    rw [h]
    rfl

/-! ## The templates -/

/-- A part of a query's template: text outside literals, a fixed literal, or the literal
of one of the two values. -/
inductive Part where
  | text (s : String)
  | fixed (s : String)
  | team
  | model
  deriving DecidableEq, Repr

/-- The templates of the four queries, with or without the filter on the model. -/
def queryTemplates (filtered : Bool) : List (String × List Part) :=
  let requests := "sum(rate(gateway_chat_requests_total\x7b"
  let modelFilter := [.text "requested_model=", .model]
  let errorFilter := [.text "outcome=", .fixed "error"]
  let window := .text "\x7d[5m]))"
  [("gateway_p95_latency_ms",
      [.text "histogram_quantile(0.95, ",
        .text "sum(rate(gateway_chat_duration_seconds_bucket[5m])) by (le)) * 1000"]),
    ("gateway_error_rate",
      if filtered then
        [.text requests] ++ errorFilter ++ [.text ","] ++ modelFilter ++
          [window, .text " / clamp_min(", .text requests] ++ modelFilter ++
          [window, .text ", 1)"]
      else
        [.text requests] ++ errorFilter ++
          [window, .text " / clamp_min(",
            .text "sum(rate(gateway_chat_requests_total[5m]))", .text ", 1)"]),
    ("governance_block_rate",
      [.text "sum(rate(gateway_governance_decisions_total\x7bverdict=", .fixed "block",
        .text "\x7d[5m])) ",
        .text "/ clamp_min(sum(rate(gateway_governance_decisions_total[5m])), 1)"]),
    ("tenant_request_rate",
      [.text "sum(rate(gateway_tenant_requests_total\x7bteam=", .team, window])]

/-- What a part means: its characters, or one literal that denotes the value. -/
def Part.meaning (team model : List Char) : Part → List Token
  | .text s => s.toList.map .char
  | .fixed s => [.literal (utf8 s.toList)]
  | .team => [.literal (utf8 team)]
  | .model => [.literal (utf8 model)]

/-- The queries read as their templates, with the team and the model (without surrounding
blanks) as the values of the literals. -/
def NoInjection (team model : String) : Prop :=
  (buildPrometheusQueries team model).map (fun query => (query.1, scan query.2)) =
    (queryTemplates (decide (stripChars model.toList ≠ []))).map fun template =>
      (template.1,
        some (template.2.flatMap (Part.meaning team.toList (stripChars model.toList))))

/-- The text the builder writes for a part. -/
def Part.render (team model : List Char) : Part → List Char
  | .text s => s.toList
  | .fixed s => '"' :: (escapeLabel s.toList ++ ['"'])
  | .team => '"' :: (escapeLabel team ++ ['"'])
  | .model => '"' :: (escapeLabel model ++ ['"'])

/-- The builder fills in the templates. -/
theorem buildPrometheusQueries_eq (team model : String) :
    buildPrometheusQueries team model =
      (queryTemplates (decide (stripChars model.toList ≠ []))).map fun template =>
        (template.1,
          template.2.flatMap (Part.render team.toList (stripChars model.toList))) := by
  have herror : escapeLabel "error".toList = "error".toList := by decide
  have hblock : escapeLabel "block".toList = "block".toList := by decide
  -- where the builder's own texts hold a mark of a literal
  have hquote : "\"".toList = ['"'] := rfl
  have hmodel : "requested_model=\"".toList = "requested_model=".toList ++ ['"'] := rfl
  have hboth : "outcome=\"error\",".toList =
      "outcome=".toList ++ '"' :: ("error".toList ++ '"' :: ",".toList) := rfl
  have hplain : "sum(rate(gateway_chat_requests_total\x7boutcome=\"error\"\x7d[5m]))".toList =
      "sum(rate(gateway_chat_requests_total\x7b".toList ++
        ("outcome=".toList ++ '"' :: ("error".toList ++ '"' :: "\x7d[5m]))".toList)) := rfl
  have hverdict :
      "sum(rate(gateway_governance_decisions_total\x7bverdict=\"block\"\x7d[5m])) ".toList =
        "sum(rate(gateway_governance_decisions_total\x7bverdict=".toList ++
          '"' :: ("block".toList ++ '"' :: "\x7d[5m])) ".toList) := rfl
  have hteam : "sum(rate(gateway_tenant_requests_total\x7bteam=\"".toList =
      "sum(rate(gateway_tenant_requests_total\x7bteam=".toList ++ ['"'] := rfl
  have hclose : "\"\x7d[5m]))".toList = '"' :: "\x7d[5m]))".toList := rfl
  unfold buildPrometheusQueries
  simp only [hquote, hmodel, hboth, hplain, hverdict, hteam, hclose]
  rw [stripChars_escapeLabel]
  by_cases h : stripChars model.toList = []
  · have hnil : escapeLabel [] = [] := rfl
    simp only [h, hnil, ne_eq, not_true_eq_false, decide_false, if_false, queryTemplates,
      Part.render, List.map_cons, List.map_nil, List.flatMap_cons, List.flatMap_nil,
      List.append_assoc, List.cons_append, List.nil_append, List.append_nil, herror, hblock,
      Bool.false_eq_true]
  · have hesc := mt escapeLabel_eq_nil.mp h
    simp only [hesc, h, ne_eq, not_false_eq_true, decide_true, if_true, queryTemplates,
      Part.render, List.map_cons, List.map_nil, List.flatMap_cons, List.flatMap_nil,
      List.append_assoc, List.cons_append, List.nil_append, List.append_nil, herror, hblock]

/-! ## Reading the templates -/

/-- The parts whose fixed texts hold no mark of a literal and no line break. -/
def Part.IsPlain : Part → Prop
  | .text s => ∀ c ∈ s.toList, IsPlainChar c
  | .fixed s => '\n' ∉ s.toList
  | .team => True
  | .model => True

/-- The characters of a text are read off its literal. -/
theorem isPlain_text {s : String} {l : List Char} (hs : s = String.ofList l)
    (hl : (l.all fun c => IsPlainChar c) = true) : (Part.text s).IsPlain := by
  subst hs
  intro c hc
  rw [String.toList_ofList] at hc
  exact of_decide_eq_true (List.all_eq_true.mp hl c hc)

theorem isPlain_fixed {s : String} {l : List Char} (hs : s = String.ofList l)
    (hl : '\n' ∉ l) : (Part.fixed s).IsPlain := by
  subst hs
  show '\n' ∉ (String.ofList l).toList
  rw [String.toList_ofList]
  exact hl

theorem queryTemplates_plain (filtered : Bool) :
    ∀ template ∈ queryTemplates filtered, ∀ part ∈ template.2, part.IsPlain := by
  cases filtered <;>
    simp only [queryTemplates, Bool.false_eq_true, if_true, if_false, List.cons_append,
      List.nil_append, List.forall_mem_cons, List.not_mem_nil, false_imp_iff, implies_true] <;>
    and_intros
  all_goals
    first
    | exact isPlain_text rfl (by decide)
    | exact isPlain_fixed rfl (by decide)
    | trivial

/-- A literal is scanned as one token that denotes its value. -/
theorem scan_literal {value : List Char} (h : '\n' ∉ value) (t : List Char) :
    scan ('"' :: (escapeLabel value ++ ['"']) ++ t) =
      (scan t).map fun tokens => .literal (utf8 value) :: tokens := by
  have happ : '"' :: (escapeLabel value ++ ['"']) ++ t =
      '"' :: (escapeLabel value ++ '"' :: t) := by simp
  rw [happ, scan_quote, read_escapeLabel h]
  rfl

theorem scan_literal_newline {value : List Char} (h : '\n' ∈ value) (t : List Char) :
    scan ('"' :: (escapeLabel value ++ ['"']) ++ t) = none := by
  have happ : '"' :: (escapeLabel value ++ ['"']) ++ t =
      '"' :: (escapeLabel value ++ '"' :: t) := by simp
  rw [happ, scan_quote, read_escapeLabel_newline h]
  rfl

/-- The line breaks that matter to a part. -/
def Part.IsBroken (team model : List Char) : Part → Prop
  | .team => '\n' ∈ team
  | .model => '\n' ∈ model
  | _ => False

/-- One part: it is read as its meaning, unless the value of its literal has a line
break. -/
theorem scan_part {team model : List Char} {part : Part} (hpart : part.IsPlain)
    (hgood : ¬ part.IsBroken team model) (t : List Char) :
    scan (part.render team model ++ t) =
      (scan t).map fun tokens => part.meaning team model ++ tokens := by
  cases part with
  | text s => exact scan_text hpart t
  | fixed s => exact scan_literal hpart t
  | team => exact scan_literal hgood t
  | model => exact scan_literal hgood t

theorem scan_part_broken {team model : List Char} {part : Part}
    (hbad : part.IsBroken team model) (t : List Char) :
    scan (part.render team model ++ t) = none := by
  cases part with
  | text s => exact absurd hbad not_false
  | fixed s => exact absurd hbad not_false
  | team => exact scan_literal_newline hbad t
  | model => exact scan_literal_newline hbad t

/-- The whole template is read as its meaning exactly when none of its literals is
broken. -/
theorem scan_template {team model : List Char} {parts : List Part}
    (hparts : ∀ part ∈ parts, part.IsPlain) :
    scan (parts.flatMap (Part.render team model)) =
        some (parts.flatMap (Part.meaning team model)) ↔
      ∀ part ∈ parts, ¬ part.IsBroken team model := by
  induction parts with
  | nil => simp [scan, scanUpto]
  | cons part parts ih =>
      have hrest := ih fun p hp => hparts p (List.mem_cons_of_mem part hp)
      rw [List.flatMap_cons, List.flatMap_cons]
      by_cases hbad : part.IsBroken team model
      · rw [scan_part_broken hbad]
        constructor
        · intro h
          exact absurd h (by simp)
        · intro h
          exact absurd hbad (h part List.mem_cons_self)
      · rw [scan_part (hparts part List.mem_cons_self) hbad]
        constructor
        · intro h p hp
          obtain ⟨tokens, htokens, heq⟩ := Option.map_eq_some_iff.mp h
          have hsame := List.append_cancel_left heq
          rcases List.mem_cons.mp hp with rfl | hp
          · exact hbad
          · exact hrest.mp (by rw [htokens, hsame]) p hp
        · intro h
          rw [hrest.mpr fun p hp => h p (List.mem_cons_of_mem part hp)]
          rfl

/-- The queries read as their templates exactly when no literal of a template is broken. -/
theorem noInjection_iff_parts (team model : String) :
    NoInjection team model ↔
      ∀ template ∈ queryTemplates (decide (stripChars model.toList ≠ [])),
        ∀ part ∈ template.2, ¬ part.IsBroken team.toList (stripChars model.toList) := by
  unfold NoInjection
  rw [buildPrometheusQueries_eq, List.map_map, List.map_inj_left]
  refine forall_congr' fun template => ?_
  constructor
  · intro h hmem
    have heq := (Prod.mk.inj (h hmem)).2
    exact (scan_template (queryTemplates_plain _ template hmem)).mp heq
  · intro h hmem
    have heq := (scan_template (queryTemplates_plain _ template hmem)).mpr (h hmem)
    simp only [Function.comp_apply, heq]

/-- **The label literals say the team and the model.**  The four queries read as their
templates, with the team and the stripped model as the values of the label literals,
exactly when neither value has a line break. -/
theorem noInjection_iff (team model : String) :
    NoInjection team model ↔
      '\n' ∉ team.toList ∧ '\n' ∉ stripChars model.toList := by
  rw [noInjection_iff_parts]
  by_cases hmodel : stripChars model.toList = []
  · simp [queryTemplates, hmodel, Part.IsBroken]
  · simp only [hmodel, ne_eq, not_false_eq_true, decide_true]
    rw [and_comm]
    simp [queryTemplates, Part.IsBroken]

/-- A line break in the team of a request. -/
theorem noInjection_fails : ¬ NoInjection "a\nb" "llama" := by
  intro h
  have hteam := ((noInjection_iff_parts "a\nb" "llama").mp h)
    ("tenant_request_rate", [.text "sum(rate(gateway_tenant_requests_total\x7bteam=", .team,
      .text "\x7d[5m]))"]) (by decide) .team (by decide)
  have hbreak : '\n' ∈ "a\nb".toList := by decide
  exact hteam hbreak

end ControlPlane

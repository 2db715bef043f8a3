/-
# Surrounding text cannot hide a finding

What the prompt scanner finds in a prompt it finds in every text that holds the prompt
between white space.  The scanner trims the longer text, so the seams of the trimmed prompt
are the ends of the text or white space, and neither is a word character to a boundary.
-/
import ControlPlane.Embedding
import ControlPlane.Governance.PromptSecurity

open Regex

namespace ControlPlane.PromptSecurity

/-! ## Trimming a longer text -/

section Trim

variable {a u b : List Char}

/-- Text without white space at its ends is the middle of what is left of a longer text. -/
theorem stripChars_within (hu : stripChars u = u) (hne : u ≠ []) (a b : List Char) :
    stripChars (a ++ u ++ b) = a.dropWhile isSpace ++ u ++ b.rdropWhile isSpace := by
  have hdrop : u.dropWhile isSpace = u := by
    have hpre : stripChars u <+: u.dropWhile isSpace := List.rdropWhile_prefix isSpace _
    have hsuf : u.dropWhile isSpace <:+ u := List.dropWhile_suffix isSpace
    rw [hu] at hpre
    exact hsuf.eq_of_length_le hpre.length_le
  have hrdrop : u.rdropWhile isSpace = u := by
    rw [stripChars, hdrop] at hu
    exact hu
  have hfront : (a ++ u ++ b).dropWhile isSpace = a.dropWhile isSpace ++ u ++ b := by
    rw [List.append_assoc, List.dropWhile_append]
    split
    · rename_i ha
      rw [List.isEmpty_iff] at ha
      rw [ha, List.nil_append, List.dropWhile_append, hdrop]
      rw [if_neg]
      rw [List.isEmpty_iff]
      exact hne
    · rw [List.append_assoc]
  have hback : (a.dropWhile isSpace ++ u ++ b).rdropWhile isSpace
      = a.dropWhile isSpace ++ u ++ b.rdropWhile isSpace := by
    have hurev : u.reverse.dropWhile isSpace = u.reverse := by
      rw [List.rdropWhile, List.reverse_eq_iff] at hrdrop
      exact hrdrop
    rw [List.rdropWhile, List.reverse_append, List.reverse_append, List.dropWhile_append]
    split
    · rename_i hb
      rw [List.isEmpty_iff] at hb
      rw [List.dropWhile_append, hurev, if_neg, List.reverse_append, List.reverse_reverse,
        List.reverse_reverse, List.rdropWhile, hb, List.reverse_nil, List.append_nil]
      rw [List.isEmpty_iff, List.reverse_eq_nil_iff]
      exact hne
    · rw [List.reverse_append, List.reverse_append, List.reverse_reverse, List.reverse_reverse,
        List.rdropWhile]
  rw [stripChars, hfront, hback]

/-- A text is its trimmed text between white space. -/
theorem exists_stripChars (l : List Char) :
    ∃ a b, l = a ++ stripChars l ++ b ∧ (∀ c ∈ a, isSpace c = true) ∧
      ∀ c ∈ b, isSpace c = true := by
  refine ⟨l.takeWhile isSpace, (l.dropWhile isSpace).rtakeWhile isSpace, ?_, ?_, ?_⟩
  · rw [List.append_assoc, stripChars, List.rdropWhile_append_rtakeWhile,
      List.takeWhile_append_dropWhile]
  · exact fun c hc => List.mem_takeWhile_imp hc
  · exact fun c hc => List.mem_rtakeWhile_imp hc

/-- What is left of a text that ends in white space ends in white space. -/
theorem getLast?_dropWhile (front : List Char) {w : Char} (hw : isSpace w = true)
    (hlast : front.getLast? = some w) {c : Char}
    (hc : (front.dropWhile isSpace).getLast? = some c) : isSpace c = true := by
  obtain ⟨l, hl⟩ : front.dropWhile isSpace <:+ front := List.dropWhile_suffix isSpace
  rw [← hl, List.getLast?_append, hc, Option.some_or, Option.some_inj] at hlast
  rw [hlast]
  exact hw

/-- What is left of a text that begins with white space begins with white space. -/
theorem head?_rdropWhile (back : List Char) {w : Char} (hw : isSpace w = true)
    (hhead : back.head? = some w) {c : Char}
    (hc : (back.rdropWhile isSpace).head? = some c) : isSpace c = true := by
  obtain ⟨l, hl⟩ : back.rdropWhile isSpace <+: back := List.rdropWhile_prefix isSpace _
  rw [← hl, List.head?_append, hc, Option.some_or, Option.some_inj] at hhead
  rw [hhead]
  exact hw

end Trim

/-! ## White space at the seams -/

variable (py : PyRuntime)

/-- White space characters are not word characters. -/
def SpaceEndsWords : Prop := ∀ c, isSpace c = true → py.isWord c = false

/-- The character is white space, or the text ends there. -/
def IsSeam (c : Option Char) : Prop := ∀ d, c = some d → isSpace d = true

variable {py} {before : Option Char} {after : List Char}

theorem IsSeam.not_word (hword : SpaceEndsWords py) {c : Option Char} (h : IsSeam c) :
    c.elim false py.isWord = false := by
  cases c with
  | none => rfl
  | some d => exact hword d (h d rfl)

theorem neutral_wordBoundary (hword : SpaceEndsWords py) (hbefore : IsSeam before)
    (hafter : IsSeam after.head?) : (wordBoundary py).Neutral before after :=
  ⟨hbefore.not_word hword, hafter.not_word hword⟩

theorem neutral_literal (text : String) : (literal text).Neutral before after := by
  refine neutral_chain (fun r hr => ?_)
  obtain ⟨c, -, rfl⟩ := List.mem_map.mp hr
  exact trivial

theorem neutral_literalI (text : String) : (literalI py text).Neutral before after := by
  refine neutral_chain (fun r hr => ?_)
  obtain ⟨c, -, rfl⟩ := List.mem_map.mp hr
  exact trivial

/-- **Every pattern of the scanner is neutral at white space.** -/
theorem neutral_patterns (hword : SpaceEndsWords py) (hbefore : IsSeam before)
    (hafter : IsSeam after.head?) :
    ∀ p ∈ piiPatterns py ++ secretPatterns py ++ injectionPatterns py,
      p.2.Neutral before after := by
  have hb := neutral_wordBoundary hword hbefore hafter
  have hl : ∀ text, (literal text).Neutral before after := neutral_literal
  have hi : ∀ text, (literalI py text).Neutral before after := neutral_literalI
  intro p hp
  simp only [piiPatterns, secretPatterns, injectionPatterns, List.cons_append, List.nil_append,
    List.mem_cons, List.not_mem_nil, or_false] at hp
  rcases hp with rfl | rfl | rfl | rfl | rfl | rfl | rfl | rfl | rfl | rfl | rfl <;>
    simp [emailAddress, phoneNumber, ssnLike, awsAccessKey, githubToken, genericApiKey,
      bearerToken, ignoreInstructions, systemOverride, promptLeak, jailbreakRoleplay,
      Pattern.chain, Pattern.opt, Pattern.Neutral, oneOf, digits, phoneSeparator, chrI, hb, hl, hi]

/-! ## What is found stays found -/

theorem mem_findMatches {text : List Char} {patterns : List (String × Pattern)} {label : String} :
    label ∈ findMatches text patterns ↔ ∃ r, (label, r) ∈ patterns ∧ search r text = true := by
  unfold findMatches
  rw [List.mem_map]
  constructor
  · rintro ⟨⟨l, r⟩, hp, rfl⟩
    rw [List.mem_filter] at hp
    exact ⟨r, hp.1, hp.2⟩
  · rintro ⟨r, hr, hs⟩
    exact ⟨(label, r), List.mem_filter.mpr ⟨hr, hs⟩, rfl⟩

/-- The findings of a text are findings of every longer text with white space at its seams. -/
theorem findingsOf_within (hword : SpaceEndsWords py) {front u back : List Char}
    (hfront : IsSeam front.getLast?) (hback : IsSeam back.head?) {label : String}
    (h : label ∈ findingsOf py u) : label ∈ findingsOf py (front ++ u ++ back) := by
  have hneutral := neutral_patterns hword hfront hback
  have hmono : ∀ ps, (∀ p ∈ ps, p ∈ piiPatterns py ++ secretPatterns py ++ injectionPatterns py) →
      label ∈ findMatches u ps → label ∈ findMatches (front ++ u ++ back) ps := by
    intro ps hps hmem
    obtain ⟨r, hr, hs⟩ := mem_findMatches.mp hmem
    exact mem_findMatches.mpr ⟨r, hr, search_within (hneutral _ (hps _ hr)) hs⟩
  unfold findingsOf at h ⊢
  rw [List.mem_append, List.mem_append] at h ⊢
  rcases h with (h | h) | h
  · exact Or.inl (Or.inl (hmono _ (fun p hp => by simp [hp]) h))
  · exact Or.inl (Or.inr (hmono _ (fun p hp => by simp [hp]) h))
  · exact Or.inr (hmono _ (fun p hp => by simp [hp]) h)

theorem hasAny_mono {f f' : List String} (h : ∀ label ∈ f, label ∈ f')
    (patterns : List (String × Pattern)) (hany : hasAny f patterns = true) :
    hasAny f' patterns = true := by
  unfold hasAny at hany ⊢
  rw [List.any_eq_true] at hany ⊢
  obtain ⟨label, hlabel, hp⟩ := hany
  exact ⟨label, h label hlabel, hp⟩

/-- More findings block more. -/
theorem blocksOn_mono {f f' : List String} (h : ∀ label ∈ f, label ∈ f') {sensitiveData : Bool}
    (hb : blocksOn py f sensitiveData) : blocksOn py f' sensitiveData := by
  rcases hb with hb | hb | ⟨hb, hs⟩
  · exact Or.inl (hasAny_mono h _ hb)
  · exact Or.inr (Or.inl (hasAny_mono h _ hb))
  · exact Or.inr (Or.inr ⟨hasAny_mono h _ hb, hs⟩)

/-! ## The scanner -/

/-- The findings that the scanner reports. -/
theorem evaluatePromptSecurity_findings (row : PipelineRow) :
    (evaluatePromptSecurity py row).findings
      = if stripChars row.promptText.toList = [] then []
        else findingsOf py (stripChars row.promptText.toList) := by
  unfold evaluatePromptSecurity
  by_cases ht : stripChars row.promptText.toList = []
  · simp only [if_pos ht]
  simp only [if_neg ht]
  by_cases hf : findingsOf py (stripChars row.promptText.toList) = []
  · rw [if_pos hf, hf]
  rw [if_neg hf]
  split <;> rfl

/-- The scanner allows, warns or blocks by its findings alone. -/
theorem evaluatePromptSecurity_decision (row : PipelineRow) :
    (evaluatePromptSecurity py row).decision
      = if (evaluatePromptSecurity py row).findings = [] then .allow
        else if blocksOn py (evaluatePromptSecurity py row).findings row.sensitiveData then .block
        else .warn := by
  rw [evaluatePromptSecurity_findings]
  unfold evaluatePromptSecurity
  by_cases ht : stripChars row.promptText.toList = []
  · simp only [if_pos ht, if_true]
  simp only [if_neg ht]
  by_cases hf : findingsOf py (stripChars row.promptText.toList) = []
  · rw [if_pos hf, if_pos hf]
  rw [if_neg hf, if_neg hf]
  split <;> rfl

/-- The findings of a prompt are findings of every text that holds it between white space. -/
theorem findings_within (hword : SpaceEndsWords py) (row : PipelineRow) (p w₁ w₂ s : String)
    (hne₁ : w₁ ≠ "") (hne₂ : w₂ ≠ "") (hw₁ : ∀ c ∈ w₁.toList, isSpace c = true)
    (hw₂ : ∀ c ∈ w₂.toList, isSpace c = true) {label : String}
    (h : label ∈ (evaluatePromptSecurity py row).findings) :
    label ∈ (evaluatePromptSecurity py
      { row with promptText := p ++ w₁ ++ row.promptText ++ w₂ ++ s }).findings := by
  rw [evaluatePromptSecurity_findings] at h ⊢
  by_cases hu : stripChars row.promptText.toList = []
  · rw [if_pos hu] at h
    exact absurd h List.not_mem_nil
  rw [if_neg hu] at h
  obtain ⟨a, b, htext, ha, hb⟩ := exists_stripChars row.promptText.toList
  have hwhole : (p ++ w₁ ++ row.promptText ++ w₂ ++ s).toList
      = (p.toList ++ w₁.toList ++ a) ++ stripChars row.promptText.toList
        ++ (b ++ w₂.toList ++ s.toList) := by
    simp only [String.toList_append]
    conv_lhs => rw [htext]
    simp only [List.append_assoc]
  show label ∈ if stripChars (p ++ w₁ ++ row.promptText ++ w₂ ++ s).toList = [] then []
    else findingsOf py (stripChars (p ++ w₁ ++ row.promptText ++ w₂ ++ s).toList)
  rw [hwhole, stripChars_within (stripChars_stripChars _) hu, if_neg (by simp [hu])]
  refine findingsOf_within hword ?_ ?_ h
  · intro c hc
    have hne : w₁.toList ++ a ≠ [] := by
      intro hnil
      exact hne₁ (String.toList_eq_nil_iff.mp (List.append_eq_nil_iff.mp hnil).1)
    obtain ⟨w, hw⟩ : ∃ w, (w₁.toList ++ a).getLast? = some w :=
      ⟨_, List.getLast?_eq_some_getLast hne⟩
    have hspace : isSpace w = true := by
      rcases List.mem_append.mp (List.mem_of_getLast? hw) with hm | hm
      · exact hw₁ w hm
      · exact ha w hm
    refine getLast?_dropWhile _ hspace ?_ hc
    rw [List.append_assoc, List.getLast?_append, hw, Option.some_or]
  · intro c hc
    have hne : b ++ w₂.toList ≠ [] := by
      intro hnil
      exact hne₂ (String.toList_eq_nil_iff.mp (List.append_eq_nil_iff.mp hnil).2)
    obtain ⟨w, hw⟩ : ∃ w, (b ++ w₂.toList).head? = some w := ⟨_, List.head?_eq_some_head hne⟩
    have hspace : isSpace w = true := by
      rcases List.mem_append.mp (List.mem_of_head? hw) with hm | hm
      · exact hb w hm
      · exact hw₂ w hm
    refine head?_rdropWhile _ hspace ?_ hc
    rw [List.head?_append, hw, Option.some_or]

/-- **Surrounding text cannot hide a finding**: between white space in any longer text the
prompt is judged at least as severely, with at least its own findings. -/
theorem evaluatePromptSecurity_within (hword : SpaceEndsWords py) (row : PipelineRow)
    (p w₁ w₂ s : String) (hne₁ : w₁ ≠ "") (hne₂ : w₂ ≠ "")
    (hw₁ : ∀ c ∈ w₁.toList, isSpace c = true) (hw₂ : ∀ c ∈ w₂.toList, isSpace c = true) :
    (evaluatePromptSecurity py row).decision ≤ (evaluatePromptSecurity py
        { row with promptText := p ++ w₁ ++ row.promptText ++ w₂ ++ s }).decision ∧
      ∀ label ∈ (evaluatePromptSecurity py row).findings,
        label ∈ (evaluatePromptSecurity py
          { row with promptText := p ++ w₁ ++ row.promptText ++ w₂ ++ s }).findings := by
  have hfound : ∀ label ∈ (evaluatePromptSecurity py row).findings,
      label ∈ (evaluatePromptSecurity py
        { row with promptText := p ++ w₁ ++ row.promptText ++ w₂ ++ s }).findings :=
    fun label => findings_within hword row p w₁ w₂ s hne₁ hne₂ hw₁ hw₂
  refine ⟨?_, hfound⟩
  rw [evaluatePromptSecurity_decision row, evaluatePromptSecurity_decision]
  by_cases hf : (evaluatePromptSecurity py row).findings = []
  · rw [if_pos hf]
    exact StageDecision.allow_le _
  obtain ⟨label, hlabel⟩ := List.exists_mem_of_ne_nil _ hf
  rw [if_neg hf, if_neg (List.ne_nil_of_mem (hfound label hlabel))]
  by_cases hb : blocksOn py (evaluatePromptSecurity py row).findings row.sensitiveData
  · rw [if_pos hb, if_pos (blocksOn_mono hfound hb)]
  · rw [if_neg hb]
    split
    · exact StageDecision.le_block _
    · exact le_refl _

/-- White space ends words for the ASCII runtime. -/
theorem spaceEndsWords_ascii : SpaceEndsWords .ascii := by
  intro c hc
  rw [isSpace, List.contains_eq_mem, decide_eq_true_eq] at hc
  show (c.isAlphanum || c == '_') = false
  have hmark : c ≠ '_' := by
    rintro rfl
    revert hc
    decide
  have halpha : c.isAlphanum = false := by
    rw [← Char.ofNat_toNat c]
    generalize c.toNat = n at hc
    fin_cases hc <;> rfl
  rw [halpha, beq_eq_false_iff_ne.mpr hmark]
  rfl

/-- A request with a mail address in its prompt. -/
def mailRow : PipelineRow := toPipelineRow { promptText := "mail bob@example.com", owner := "o" }

theorem evaluatePromptSecurity_within_mail :
    (evaluatePromptSecurity .ascii mailRow).decision ≤ (evaluatePromptSecurity .ascii
        { mailRow with
          promptText := "Please" ++ "\n" ++ mailRow.promptText ++ " " ++ "now" }).decision ∧
      ∀ label ∈ (evaluatePromptSecurity .ascii mailRow).findings,
        label ∈ (evaluatePromptSecurity .ascii
          { mailRow with
            promptText := "Please" ++ "\n" ++ mailRow.promptText ++ " " ++ "now" }).findings :=
  evaluatePromptSecurity_within spaceEndsWords_ascii mailRow "Please" "\n" " " "now" (by decide)
    (by decide) (by simp [isSpace]) (by simp [isSpace])

end ControlPlane.PromptSecurity

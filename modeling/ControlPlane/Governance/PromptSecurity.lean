/-
# The prompt scanner (`governance/prompt-security/evaluate.py`)

The prompt is searched for personal data, secrets and injection phrases.  Secrets
and injections block; personal data blocks only a request marked sensitive.  The
eleven expressions are the source's own, over the interpreter's character classes.
-/
import ControlPlane.Regex
import ControlPlane.Request
import Mathlib.Data.List.Dedup
import Mathlib.Data.List.Sort

open Regex

namespace ControlPlane.PromptSecurity

variable (py : PyRuntime)

/-! ## The patterns -/

/-- `[A-Za-z0-9]`. -/
def alphanumeric (c : Char) : Bool :=
  ('A' ≤ c ∧ c ≤ 'Z') ∨ ('a' ≤ c ∧ c ≤ 'z') ∨ ('0' ≤ c ∧ c ≤ '9')

/-- `[A-Za-z]`. -/
def alphabetic (c : Char) : Bool := ('A' ≤ c ∧ c ≤ 'Z') ∨ ('a' ≤ c ∧ c ≤ 'z')

/-- `[0-9A-Z]`. -/
def upperOrDigit (c : Char) : Bool := ('0' ≤ c ∧ c ≤ '9') ∨ ('A' ≤ c ∧ c ≤ 'Z')

/-- A character of the class or of a given list. -/
def orOneOf (cls : Char → Bool) (extra : List Char) (c : Char) : Bool := cls c || c ∈ extra

/-- One of the listed characters. -/
def oneOf (cs : List Char) : Pattern := .chr (fun c => c ∈ cs)

/-- The text itself. -/
def literal (text : String) : Pattern := .chain (text.toList.map (fun c => oneOf [c]))

/-- One character of a class under `re.IGNORECASE`. -/
def chrI (cls : Char → Bool) : Pattern := .chr (fun c => (c :: py.caseVariants c).any cls)

/-- The text itself under `re.IGNORECASE`. -/
def literalI (text : String) : Pattern := .chain (text.toList.map (fun c => chrI py (· == c)))

/-- `\b`. -/
def wordBoundary : Pattern := .boundary py.isWord

/-- `\d{lo,hi}`. -/
def digits (lo hi : ℕ) : Pattern := .rep lo (some hi) (.chr py.isDigit)

/-- `[-.\s]?`. -/
def phoneSeparator : Pattern := .opt (.chr (orOneOf isSpace ['-', '.']))

/-- `email_address`. -/
def emailAddress : Pattern := .chain
  [wordBoundary py, .rep 1 none (.chr (orOneOf alphanumeric ['.', '_', '%', '+', '-'])),
    oneOf ['@'], .rep 1 none (.chr (orOneOf alphanumeric ['.', '-'])), oneOf ['.'],
    .rep 2 none (.chr alphabetic), wordBoundary py]

/-- `phone_number`. -/
def phoneNumber : Pattern := .chain
  [wordBoundary py, .opt (.chain [.opt (oneOf ['+']), digits py 1 3, phoneSeparator]),
    .rep 2 (some 2)
      (.chain [.opt (oneOf ['(']), digits py 3 3, .opt (oneOf [')']), phoneSeparator]),
    digits py 4 4, wordBoundary py]

/-- `ssn_like`. -/
def ssnLike : Pattern := .chain
  [wordBoundary py, digits py 3 3, oneOf ['-'], digits py 2 2, oneOf ['-'], digits py 4 4,
    wordBoundary py]

/-- `aws_access_key`. -/
def awsAccessKey : Pattern := .chain
  [wordBoundary py, literal "AKIA", .rep 16 (some 16) (.chr upperOrDigit), wordBoundary py]

/-- `github_token`. -/
def githubToken : Pattern := .chain
  [wordBoundary py, literal "gh", oneOf ['p', 'o', 'u', 's', 'r'], oneOf ['_'],
    .rep 20 none (.chr alphanumeric), wordBoundary py]

/-- `generic_api_key`. -/
def genericApiKey : Pattern := .chain
  [wordBoundary py,
    .alt (.chain [literalI py "api", .opt (oneOf ['_', '-']), literalI py "key"])
      (.alt (literalI py "secret") (literalI py "token")),
    .rep 0 none (.chr isSpace), oneOf [':', '='], .rep 0 none (.chr isSpace),
    .rep 8 none (.chr (fun c => !isSpace c)), wordBoundary py]

/-- `bearer_token`. -/
def bearerToken : Pattern := .chain
  [wordBoundary py, literalI py "Bearer", .rep 1 none (.chr isSpace),
    .rep 20 none (chrI py (orOneOf alphanumeric ['.', '_', '-'])), wordBoundary py]

/-- `ignore_instructions`. -/
def ignoreInstructions : Pattern := .chain
  [literalI py "ignore ", .opt (literalI py "all "),
    .alt (literalI py "previous") (literalI py "prior"), literalI py " instructions"]

/-- `system_override`. -/
def systemOverride : Pattern := .chain
  [literalI py "you are now ", .alt (literalI py "a") (literalI py "an"), literalI py " "]

/-- `prompt_leak`. -/
def promptLeak : Pattern := .chain
  [literalI py "reveal ", .opt (literalI py "the "),
    .alt (literalI py "system prompt") (literalI py "hidden instructions")]

/-- `jailbreak_roleplay`. -/
def jailbreakRoleplay : Pattern :=
  .alt (literalI py "do anything now") (.alt (literalI py "DAN mode") (literalI py "developer mode"))

/-- `PII_PATTERNS`. -/
def piiPatterns : List (String × Pattern) :=
  [("email_address", emailAddress py), ("phone_number", phoneNumber py), ("ssn_like", ssnLike py)]

/-- `SECRET_PATTERNS`. -/
def secretPatterns : List (String × Pattern) :=
  [("aws_access_key", awsAccessKey py), ("github_token", githubToken py),
    ("generic_api_key", genericApiKey py), ("bearer_token", bearerToken py)]

/-- `INJECTION_PATTERNS`. -/
def injectionPatterns : List (String × Pattern) :=
  [("ignore_instructions", ignoreInstructions py), ("system_override", systemOverride py),
    ("prompt_leak", promptLeak py), ("jailbreak_roleplay", jailbreakRoleplay py)]

/-! ## The scanner -/

/-- The result of `evaluate_prompt_security`. -/
structure PromptResult where
  decision : StageDecision
  reasons : List String
  findings : List String
  deriving DecidableEq, Repr

/-- The labels of the patterns found in the text. -/
def findMatches (text : List Char) (patterns : List (String × Pattern)) : List String :=
  (patterns.filter (fun p => search p.2 text)).map Prod.fst

/-- A finding carries one of the labels of the patterns. -/
def hasAny (findings : List String) (patterns : List (String × Pattern)) : Bool :=
  findings.any (fun label => label ∈ patterns.map Prod.fst)

/-- The findings of a prompt. -/
def findingsOf (promptText : List Char) : List String :=
  findMatches promptText (piiPatterns py) ++ findMatches promptText (secretPatterns py)
    ++ findMatches promptText (injectionPatterns py)

/-- The findings block the request: an injection, a secret, or personal data in a
request that is marked sensitive. -/
def blocksOn (findings : List String) (sensitiveData : Bool) : Prop :=
  hasAny findings (injectionPatterns py) ∨ hasAny findings (secretPatterns py)
    ∨ (hasAny findings (piiPatterns py) ∧ sensitiveData = true)

instance (findings : List String) (b : Bool) : Decidable (blocksOn py findings b) :=
  inferInstanceAs (Decidable (_ ∨ _ ∨ (_ ∧ _)))

/-- `evaluate_prompt_security`. -/
def evaluatePromptSecurity (row : PipelineRow) : PromptResult :=
  let promptText := stripChars row.promptText.toList
  if promptText = [] then
    { decision := .allow, reasons := ["no prompt text to scan"], findings := [] }
  else
    let findings := findingsOf py promptText
    let labels := ", ".intercalate (findings.dedup.insertionSort (· ≤ ·))
    if findings = [] then
      { decision := .allow, reasons := ["prompt security checks passed"], findings := [] }
    else if blocksOn py findings row.sensitiveData then
      { decision := .block, reasons := ["prompt security detected: " ++ labels],
        findings := findings }
    else
      { decision := .warn, reasons := ["prompt security warning: " ++ labels],
        findings := findings }

/-- **Specification of the scanner**: it blocks exactly when the trimmed prompt has
findings that block at the request's sensitivity. -/
theorem evaluatePromptSecurity_block_iff (row : PipelineRow) :
    (evaluatePromptSecurity py row).decision = .block ↔
      stripChars row.promptText.toList ≠ [] ∧
      blocksOn py (findingsOf py (stripChars row.promptText.toList)) row.sensitiveData := by
  unfold evaluatePromptSecurity
  by_cases ht : stripChars row.promptText.toList = []
  · simp [ht]
  simp only [if_neg ht]
  by_cases hf : findingsOf py (stripChars row.promptText.toList) = []
  · simp [hf, ht, blocksOn, hasAny]
  simp only [if_neg hf]
  by_cases hb : blocksOn py (findingsOf py (stripChars row.promptText.toList)) row.sensitiveData
  · simp [hb, ht]
  · simp [hb]

/-- Marking a request sensitive never unblocks its prompt. -/
theorem evaluatePromptSecurity_block_mono {r₁ r₂ : PipelineRow}
    (hprompt : r₁.promptText = r₂.promptText)
    (hsens : r₁.sensitiveData = true → r₂.sensitiveData = true)
    (h : (evaluatePromptSecurity py r₁).decision = .block) :
    (evaluatePromptSecurity py r₂).decision = .block := by
  rw [evaluatePromptSecurity_block_iff, hprompt] at h
  rw [evaluatePromptSecurity_block_iff]
  obtain ⟨ht, h⟩ := h
  refine ⟨ht, ?_⟩
  rcases h with h | h | ⟨hp, hs⟩
  · exact Or.inl h
  · exact Or.inr (Or.inl h)
  · exact Or.inr (Or.inr ⟨hp, hsens hs⟩)

end ControlPlane.PromptSecurity

/-
# What a registry file says and what its parser keeps

A parser is faithful to an accepted text when every line has an effect on the result, every
restriction that is written is stored with its items, and the engine forbids what violates one
(`Faithful`).  This is so exactly when every line fits what was noted before it
(`faithful_iff`).
-/
import ControlPlane.Governance.RegistryNotes

namespace ControlPlane

/-! ## The engines -/

/-- The three engines that read a registry. -/
inductive RegistryKind where
  | models
  | agents
  | tools
  deriving DecidableEq, Repr

namespace RegistryKind

/-- The format of the file of an engine. -/
def format : RegistryKind → RegistryFormat
  | models => Registry.format
  | agents => Agents.format
  | tools => Tools.format

/-- The `parse_registry` of a kind. -/
def parseRegistry (py : PyRuntime) (path : String) (text : Option String) :
    RegistryKind → Except RegistryError (Dict Entry)
  | models => Registry.parseRegistry py path text
  | agents => Agents.parseRegistry py path text
  | tools => Tools.parseRegistry py path text

theorem parseRegistry_ok {py : PyRuntime} {path text : String} {registry : Dict Entry}
    {kind : RegistryKind} : kind.parseRegistry py path (some text) = .ok registry ↔
      ∃ σ, parseText py kind.format text = .ok σ ∧ σ.entries = registry := by
  have hsame : kind.parseRegistry py path (some text) =
      (parseText py kind.format text).map ParserState.entries := by
    cases kind with
    | models => rfl
    | agents => rfl
    | tools => rfl
  rw [hsame]
  cases parseText py kind.format text with
  | error e => simp [Except.map]
  | ok σ => simp [Except.map]

end RegistryKind

/-- A list that is written for a key of an entry leaves something out. -/
def Excludes (written : String → String → Option (List String)) (name key x : String) : Prop :=
  ∃ items, written name key = some items ∧ items ≠ [] ∧ x ∉ items

section Engines

variable (py : PyRuntime) (written : String → String → Option (List String))

/-- The action is forbidden, or it is not one of those that are allowed. -/
def ExcludesAction (name action : String) : Prop :=
  (∃ items, written name "forbidden_actions" = some items ∧
      py.canonical action ∈ items.map py.lower) ∨
    ∃ items, written name "allowed_actions" = some items ∧ items ≠ [] ∧
      py.canonical action ∉ items.map py.lower

/-- The engine forbids every request whose team, namespace or action violates a restriction that
is written. -/
def Forbids (entries : Dict Entry) : RegistryKind → Prop
  | .models => ∀ (env : EngineEnv) (row : PipelineRow) (result : Registry.RegistryResult),
      Excludes written row.model "allowed_teams" row.team ∨
        Excludes written row.model "allowed_namespaces" row.namespace →
      Registry.evaluateModelPolicy py env row entries = .ok result → result.forbidden = true
  | .agents => ∀ (row : PipelineRow) (requestedTool : String) (toolRegistry : Dict Entry)
      (result : Agents.AgentResult), strip row.agent ≠ "" →
      Excludes written (strip row.agent) "allowed_teams" row.team ∨
        Excludes written (strip row.agent) "allowed_namespaces" row.namespace →
      Agents.evaluateAgentPolicy py row requestedTool entries toolRegistry = .ok result →
      result.forbidden = true
  | .tools => ∀ request : Tools.ToolRequest,
      Excludes written (strip request.tool) "allowed_teams" request.team ∨
        Excludes written (strip request.tool) "allowed_namespaces" request.namespace ∨
        ExcludesAction py written (strip request.tool) request.action →
      (Tools.evaluateToolPolicy py request entries).forbidden = true

/-- What is written is stored. -/
def Stores (entries : Dict Entry) : Prop :=
  ∀ name key items, written name key = some items →
    ∃ entry, entries name = some entry ∧ entry key = some (.list items)

variable {py written} {entries : Dict Entry}

theorem excludes_entry (hs : Stores written entries) {name key x : String}
    (h : Excludes written name key x) :
    ∃ entry, entries name = some entry ∧ entry.nonemptyListExcludes key x = true ∧
      entry.listExcludes key x = true := by
  obtain ⟨items, hwritten, hne, hx⟩ := h
  obtain ⟨entry, hentry, hlist⟩ := hs name key items hwritten
  refine ⟨entry, hentry, ?_, ?_⟩
  · simp only [Entry.nonemptyListExcludes, hlist]
    exact decide_eq_true ⟨hne, hx⟩
  · simp only [Entry.listExcludes, hlist]
    exact decide_eq_true hx

theorem forbids_models (hs : Stores written entries) : Forbids py written entries .models := by
  intro env row result hexcludes heval
  have hreasons : ∀ entry, entries row.model = some entry →
      Registry.entryReasons py row entry ≠ [] → result.forbidden = true := by
    intro entry hentry hne
    unfold Registry.evaluateModelPolicy at heval
    simp only [hentry, bind_eq_ok, pure_eq_ok] at heval
    obtain ⟨attestation, -, overBudget, -, rfl⟩ := heval
    apply decide_eq_true
    intro hnil
    exact hne (List.append_eq_nil_iff.mp (List.append_eq_nil_iff.mp hnil).1).1
  rcases hexcludes with hteam | hnamespace
  · obtain ⟨entry, hentry, hlist, -⟩ := excludes_entry hs hteam
    apply hreasons entry hentry
    simp [Registry.entryReasons, reasonIf, hlist]
  · obtain ⟨entry, hentry, -, hlist⟩ := excludes_entry hs hnamespace
    apply hreasons entry hentry
    simp [Registry.entryReasons, reasonIf, hlist]

theorem forbids_agents (hs : Stores written entries) : Forbids py written entries .agents := by
  intro row requestedTool toolRegistry result hagent hexcludes heval
  have hreasons : ∀ entry, entries (strip row.agent) = some entry →
      (∀ tools, Agents.agentReasons py row (strip requestedTool) entry toolRegistry tools ≠ []) →
      result.forbidden = true := by
    intro entry hentry hne
    unfold Agents.evaluateAgentPolicy at heval
    simp only [if_neg hagent, hentry, bind_eq_ok, pure_eq_ok] at heval
    obtain ⟨tools, -, rfl⟩ := heval
    exact decide_eq_true (hne tools)
  rcases hexcludes with hteam | hnamespace
  · obtain ⟨entry, hentry, hlist, -⟩ := excludes_entry hs hteam
    apply hreasons entry hentry
    intro tools
    simp [Agents.agentReasons, reasonIf, hlist]
  · obtain ⟨entry, hentry, hlist, -⟩ := excludes_entry hs hnamespace
    apply hreasons entry hentry
    intro tools
    simp [Agents.agentReasons, reasonIf, hlist]

theorem forbids_tools (hs : Stores written entries) : Forbids py written entries .tools := by
  intro request hexcludes
  have hreasons : ∀ entry, entries (strip request.tool) = some entry →
      Tools.toolReasons py request entry ≠ [] →
      (Tools.evaluateToolPolicy py request entries).forbidden = true := by
    intro entry hentry hne
    unfold Tools.evaluateToolPolicy
    by_cases htool : strip request.tool = ""
    · simp only [htool, if_true]
    · simp only [htool, if_false, hentry]
      exact decide_eq_true hne
  have haction : ∀ entry, Tools.actionReasons py (strip request.action) entry ≠ [] →
      Tools.toolReasons py request entry ≠ [] := by
    intro entry hne
    simp [Tools.toolReasons, hne]
  have hcanonical : py.canonical (strip request.action) = py.canonical request.action := by
    unfold PyRuntime.canonical
    rw [strip_strip]
  rcases hexcludes with hteam | hnamespace | ⟨items, hwritten, hmem⟩ | ⟨items, hwritten, hne, hmem⟩
  · obtain ⟨entry, hentry, hlist, -⟩ := excludes_entry hs hteam
    apply hreasons entry hentry
    simp [Tools.toolReasons, reasonIf, hlist]
  · obtain ⟨entry, hentry, hlist, -⟩ := excludes_entry hs hnamespace
    apply hreasons entry hentry
    simp [Tools.toolReasons, reasonIf, hlist]
  · obtain ⟨entry, hentry, hlist⟩ := hs _ _ items hwritten
    apply hreasons entry hentry
    apply haction entry
    have hlowered : Tools.lowered py entry "forbidden_actions" = items.map py.lower := by
      simp only [Tools.lowered, hlist]
    unfold Tools.actionReasons
    rw [hcanonical, hlowered]
    by_cases hempty : py.canonical request.action = ""
    · simp [hempty]
    · simp [hempty, hmem]
  · obtain ⟨entry, hentry, hlist⟩ := hs _ _ items hwritten
    apply hreasons entry hentry
    apply haction entry
    have hlowered : Tools.lowered py entry "allowed_actions" = items.map py.lower := by
      simp only [Tools.lowered, hlist]
    have hmap : items.map py.lower ≠ [] := fun h => hne (List.map_eq_nil_iff.mp h)
    unfold Tools.actionReasons
    rw [hcanonical, hlowered]
    dsimp only
    split_ifs with h1 h2 h3
    · exact List.cons_ne_nil _ _
    · exact List.cons_ne_nil _ _
    · exact List.cons_ne_nil _ _
    · exact absurd ⟨hmap, hmem⟩ h3

theorem forbids_of_stores (kind : RegistryKind) (hs : Stores written entries) :
    Forbids py written entries kind := by
  cases kind with
  | models => exact forbids_models hs
  | agents => exact forbids_agents hs
  | tools => exact forbids_tools hs

end Engines

/-! ## Faithful parsing -/

section Faithful

variable (py : PyRuntime) (inline : String → List String) (kind : RegistryKind)

/-- Nothing that the text says is lost in the parsed registry. -/
structure Faithful (text : String) (registry : Dict Entry) : Prop where
  /-- of every line that is not blank and no comment the result has what the line says: its entry,
  its key, its item -/
  effect : ∀ σ, parseText py kind.format text = .ok σ → ∀ l ∈ (splitlines text).zipIdx,
    isSignificant l.1 = true → σ.Shows l.2 (shape kind.format.sectionName l.1).read.mark
  /-- a restriction that is written is stored with its items -/
  stores : Stores (notes inline kind.format (splitlines text).zipIdx).written registry
  /-- and it is enforced -/
  forbids : Forbids py (notes inline kind.format (splitlines text).zipIdx).written registry kind

variable {py inline kind}

theorem looseKey_mem (kind : RegistryKind) :
    ∀ key, kind.format.looseKey = some key → key ∈ kind.format.listKeys := by
  intro key h
  cases kind with
  | models =>
    rw [← Option.some.inj h]
    decide
  | agents => cases h
  | tools => cases h

theorem stores_iff_exact {σ : ParserState} {r : Notes} (hscalars : PlainScalars σ) :
    Stores r.written σ.entries ↔ Exact σ r := by
  unfold Stores Exact
  refine forall₄_congr ?_
  intro name key items _
  constructor
  · rintro ⟨entry, hentry, hlist⟩
    obtain ⟨e, he, rfl⟩ := Option.map_eq_some_iff.mp hentry
    obtain ⟨f, hf, hvalue⟩ := Option.map_eq_some_iff.mp hlist
    have hfield : σ.field name key = some f := by
      rw [ParserState.field, he]
      exact hf
    cases f with
    | scalar line v => exact absurd hvalue (hscalars name key line v hfield items)
    | list line its => exact ⟨line, its, hfield, Scalar.list.inj hvalue⟩
  · rintro ⟨line, its, hfield, rfl⟩
    obtain ⟨e, he, hf⟩ := Option.bind_eq_some_iff.mp hfield
    refine ⟨fun key => (e.fields key).map Field.value, by rw [ParserState.entries, he]; rfl, ?_⟩
    show (e.fields key).map Field.value = _
    rw [hf]
    rfl

/-- **A parser is faithful to a text that it accepts** exactly when every line says what the parser
takes it for and fits. -/
theorem faithful_iff {path text : String} {registry : Dict Entry}
    (h : kind.parseRegistry py path (some text) = .ok registry) :
    Faithful py inline kind text registry ↔
      Notes.Tidy inline kind.format {} (shapes kind.format (splitlines text).zipIdx) := by
  obtain ⟨σ, hparse, rfl⟩ := RegistryKind.parseRegistry_ok.mp h
  have hrun := run_of_parseLines hparse
  have hnothing : ∀ m, ¬ ParserState.HasLine {} m := by
    rintro m ⟨place, hp⟩
    cases place with
    | opening => cases hp
    | entry name =>
      obtain ⟨e, he, -⟩ := hp
      cases he
    | field name key =>
      obtain ⟨f, hf, -⟩ := hp
      cases hf
  have hnumbered : ParserState.Numbered {} 0 :=
    ⟨fun p m hp => absurd ⟨p, hp⟩ (hnothing m), fun m p _ hp _ => absurd ⟨p, hp⟩ (hnothing m)⟩
  have hsorted : (splitlines text).zipIdx.Pairwise (fun a b => a.2 < b.2) := by
    have hrange := @List.pairwise_lt_range' 0 (splitlines text).length 1 (by decide)
    rw [← List.zipIdx_map_snd 0 (splitlines text)] at hrange
    exact List.pairwise_map.mp hrange
  have hleaves := run_leaves inline hrun mirrors_start hnumbered (fun l _ => Nat.zero_le l.2)
    hsorted
  have hscalars : PlainScalars σ := plainScalars_run hrun mirrors_start (by
    intro name key line v hfield
    cases hfield)
  have hstart : Exact {} {} := by
    intro name key items hwritten
    cases hwritten
  have hunique : ∀ l ∈ (splitlines text).zipIdx, ∀ l' ∈ (splitlines text).zipIdx,
      l'.2 = l.2 → l' = l := by
    intro l hl l' hl' hline
    exact List.inj_on_of_nodup_map (List.pairwise_map.mpr (hsorted.imp Nat.ne_of_lt)) hl' hl hline
  -- every line shows what it says when it has an effect and is read as it says
  have hshows : (∀ l ∈ (splitlines text).zipIdx, isSignificant l.1 = true →
        σ.Shows l.2 (shape kind.format.sectionName l.1).read.mark) ↔
      (∀ l ∈ (splitlines text).zipIdx, isSignificant l.1 = true → σ.HasLine l.2) ∧
        ∀ s ∈ shapes kind.format (splitlines text).zipIdx, s.read = s := by
    unfold shapes
    rw [List.forall_mem_map]
    simp only [List.mem_filter, and_imp]
    constructor
    · intro hall
      exact ⟨fun l hl hsig => ((shows_iff hrun hunique hl).mp (hall l hl hsig)).1,
        fun l hl hsig => ((shows_iff hrun hunique hl).mp (hall l hl hsig)).2⟩
    · rintro ⟨heffect, hread⟩ l hl hsig
      exact (shows_iff hrun hunique hl).mpr ⟨heffect l hl hsig, hread l hl hsig⟩
  rw [Notes.tidy_iff]
  constructor
  · intro hfaithful
    obtain ⟨heffect, hread⟩ := hshows.mp (hfaithful.effect σ hparse)
    have hall := hleaves.mp ⟨fun m hm => absurd hm (hnothing m), heffect⟩
    have hstores := hfaithful.stores
    rw [notes_of_read inline kind.format hread] at hstores
    refine ⟨hread, hall, ?_⟩
    apply (run_exact inline (looseKey_mem kind) hrun mirrors_start noted_start hall hstart).mp
    exact (stores_iff_exact hscalars).mp hstores
  · rintro ⟨hread, hall, hplain⟩
    have hstores : Stores (notes inline kind.format (splitlines text).zipIdx).written
        σ.entries := by
      rw [notes_of_read inline kind.format hread, stores_iff_exact hscalars]
      exact (run_exact inline (looseKey_mem kind) hrun mirrors_start noted_start hall hstart).mpr
        hplain
    refine ⟨?_, hstores, forbids_of_stores kind hstores⟩
    intro σ' hparse'
    rw [hparse, Except.ok.injEq] at hparse'
    subst hparse'
    exact hshows.mpr ⟨(hleaves.mpr hall).2, hread⟩

/-- A runtime for texts without numbers. -/
def wordsRuntime : PyRuntime :=
  { PyRuntime.ascii with intOfStr := fun _ => none, floatOfStr := fun _ => none }

/-- The restriction as a list of lines. -/
def listedText : String :=
  "models:\n  qwen2.5-7b:\n    risk_tier: low\n    allowed_namespaces:\n" ++
    "      - ai-dev\n      - ai-prod\n"

theorem faithful_iff_listed : ∃ registry,
    Registry.parseRegistry wordsRuntime "models.yaml" (some listedText) = .ok registry ∧
      Faithful wordsRuntime (fun _ => []) .models listedText registry := by
  have hok : (Registry.parseRegistry wordsRuntime "models.yaml" (some listedText)).isOk = true := by
    decide +kernel
  have hshapes : shapes Registry.format (splitlines listedText).zipIdx =
      [.opening, .header "qwen2.5-7b", .pair "risk_tier" " low", .pair "allowed_namespaces" "",
        .item true "ai-dev", .item true "ai-prod"] := by decide +kernel
  cases h : Registry.parseRegistry wordsRuntime "models.yaml" (some listedText) with
  | error e =>
    rw [h] at hok
    cases hok
  | ok registry =>
    have hparse : RegistryKind.models.parseRegistry wordsRuntime "models.yaml" (some listedText) =
      .ok registry := h
    refine ⟨registry, rfl, (faithful_iff hparse).mpr ?_⟩
    show Notes.Tidy _ Registry.format {} (shapes Registry.format _)
    have hread : (shapes Registry.format (splitlines listedText).zipIdx).map LineShape.read =
        shapes Registry.format (splitlines listedText).zipIdx := by decide +kernel
    rw [hshapes] at hread ⊢
    simp only [List.map_cons, List.map_nil, List.cons.injEq, and_true] at hread
    simp [Notes.Tidy, Notes.Fits, Notes.note, Notes.openList, Registry.format, hread]
    decide +kernel

/-- The restriction beside its key, as the documentation writes it. -/
def inlineText : String :=
  "models:\n  qwen2.5-7b:\n    risk_tier: low\n    allowed_namespaces: [ai-dev, ai-prod]\n"

/-- The list beside the key is stored as a text, which restricts nothing. -/
theorem inlineText_not_faithful :
    ∃ registry, Registry.parseRegistry wordsRuntime "models.yaml" (some inlineText) = .ok registry ∧
      ∀ inline, ¬ Faithful wordsRuntime inline .models inlineText registry := by
  have hstored : (Registry.parseRegistry wordsRuntime "models.yaml"
      (some inlineText)).toOption.bind (fun registry =>
        (registry "qwen2.5-7b").bind (fun e => e "allowed_namespaces")) =
      some (.str "[ai-dev, ai-prod]") := by decide +kernel
  cases h : Registry.parseRegistry wordsRuntime "models.yaml" (some inlineText) with
  | error e =>
    rw [h] at hstored
    cases hstored
  | ok registry =>
    rw [h] at hstored
    refine ⟨registry, rfl, ?_⟩
    intro inline hfaithful
    obtain ⟨items, hitems⟩ : ∃ items, (notes inline Registry.format
        (splitlines inlineText).zipIdx).written "qwen2.5-7b" "allowed_namespaces" = some items := by
      have hread : (shapes Registry.format (splitlines inlineText).zipIdx).map LineShape.read =
          [.opening, .header "qwen2.5-7b", .pair "risk_tier" " low",
            .pair "allowed_namespaces" " [ai-dev, ai-prod]"] := by decide +kernel
      unfold notes
      rw [hread]
      simp [Notes.note, Notes.adding, Registry.format]
    obtain ⟨entry, hentry, hlist⟩ := hfaithful.stores _ _ _ hitems
    have hvalue : (registry "qwen2.5-7b").bind (fun e => e "allowed_namespaces") =
        some (.str "[ai-dev, ai-prod]") := hstored
    rw [hentry, Option.bind_some, hlist] at hvalue
    cases hvalue

end Faithful

end ControlPlane

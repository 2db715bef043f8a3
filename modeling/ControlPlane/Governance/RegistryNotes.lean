/-
# What the lines of a registry file say

A reader of the file notes what the lines say: which entries there are, which keys an entry
has, and which items are written under a key that restricts (`Notes`).  Names, keys and items
are read as in every file of this format, without quotes, a comment or blanks around them
(`LineShape.read`), which the parser does not know.  Three things can go wrong with a line.
What it says can be something else than the parser takes it for (`shows_iff`); it can leave
nothing, or replace what an earlier line has left (`Notes.Leaves`, `run_leaves`); and what it
leaves can be another list than the one that is written (`Notes.Plain`, `run_exact`).
-/
import ControlPlane.Governance.RegistryText

namespace ControlPlane

/-! ## Names, keys and items -/

/-- Up to a comment: a `#` at the beginning or behind a blank, which the flag tells. -/
def uncomment : Bool → List Char → List Char
  | _, [] => []
  | blank, c :: l => if blank = true ∧ c = '#' then [] else c :: uncomment (isSpace c) l

/-- What a name, a key or an item says: what stands between its quotes, or what is left of it
without a comment and the blanks around it. -/
def readText (text : String) : String :=
  match stripChars text.toList with
  | [] => ""
  | c :: l =>
    if c = '"' ∨ c.toNat = 0x27 then String.ofList (l.takeWhile (· ≠ c))
    else String.ofList (stripChars (uncomment true (c :: l)))

/-- What a line says.  The value beside a key is left as it stands. -/
def LineShape.read : LineShape → LineShape
  | .header name => .header (readText name)
  | .item deep text => .item deep (readText text)
  | .pair key value => .pair (readText key) value
  | s => s

example : (shape "tools" "      -  \"delete\" # never").read = .item true "delete" := by
  decide +kernel

/-! ## What the lines say -/

/-- What a reader notes; `keys`, `lastPair` and `loose` are about the current entry. -/
structure Notes where
  opened : Bool := false
  names : List String := []
  entry : Option String := none
  keys : List String := []
  /-- the last line with a key, and its value -/
  lastPair : Option (String × String) := none
  /-- a deeply indented item stood outside of a list -/
  loose : Bool := false
  /-- the items written under or beside a restriction key of an entry -/
  written : String → String → Option (List String) := fun _ _ => none

namespace Notes

variable (inline : String → List String) (fmt : RegistryFormat) (r : Notes)

/-- The restriction key whose items may follow. -/
def openList : Option String :=
  (r.lastPair.filter (fun p => p.1 ∈ fmt.listKeys ∧ strip p.2 = "")).map Prod.fst

/-- More items for a restriction key of the current entry. -/
def adding (key : String) (items : List String) : String → String → Option (List String) :=
  fun x k => if r.entry = some x ∧ k = key ∧ key ∈ fmt.listKeys then
    some ((r.written x k).getD [] ++ items) else r.written x k

/-- Note a line.  `inline` reads the items beside a key. -/
def note : LineShape → Notes
  | .opening => { r with opened := true }
  | .header name => { r with
      names := name :: r.names
      entry := some name
      keys := []
      lastPair := none
      loose := false }
  | .item deep text => { r with
      loose := r.loose || (deep && (r.openList fmt).isNone)
      written := match r.lastPair with
        | some (key, _) => r.adding fmt key [text]
        | none => r.written }
  | .pair key value => { r with
      keys := key :: r.keys
      lastPair := some (key, value)
      written := r.adding fmt key (if strip value = "" then [] else inline value) }
  | .other => r

/-- A line fits: the section is opened once, an entry has one header and a key of it one line, a
restriction has no value beside its key, and items stand in an open list.  Where deeper items
outside of a list are collected, the entry has no line for the key that collects them. -/
def Fits : LineShape → Prop
  | .opening => r.opened = false
  | .header name => name ∉ r.names
  | .item deep _ => (r.openList fmt).isSome = true ∨
      deep = true ∧ ∀ key, fmt.looseKey = some key → key ∉ r.keys
  | .pair key value => key ∉ r.keys ∧ (r.loose = true → fmt.looseKey ≠ some key) ∧
      (key ∈ fmt.listKeys → strip value = "")
  | .other => True

/-- Every line says what the parser takes it for, and fits what was noted before it. -/
def Tidy (r : Notes) : List LineShape → Prop
  | [] => True
  | s :: rest => s.read = s ∧ r.Fits fmt s ∧ (r.note inline fmt s).Tidy rest

/-- The line leaves something, and all that was left before. -/
def Leaves : LineShape → Prop
  | .opening => r.opened = false
  | .header name => name ∉ r.names
  | .item deep _ => (r.openList fmt).isSome = true ∨ deep = true
  | .pair key _ => key ∉ r.keys ∧ (r.loose = true → fmt.looseKey ≠ some key)
  | .other => True

/-- The line keeps the lists as they are written. -/
def Plain : LineShape → Prop
  | .item _ _ => (r.openList fmt).isSome = true ∨ ∀ key, fmt.looseKey = some key → key ∉ r.keys
  | .pair key value => key ∈ fmt.listKeys → strip value = ""
  | _ => True

/-- All lines, each after what was noted before it. -/
def All (P : Notes → LineShape → Prop) (r : Notes) : List LineShape → Prop
  | [] => True
  | s :: rest => P r s ∧ (r.note inline fmt s).All P rest

theorem fits_iff (s : LineShape) : r.Fits fmt s ↔ r.Leaves fmt s ∧ r.Plain fmt s := by
  cases s with
  | opening => exact (and_iff_left trivial).symm
  | header name => exact (and_iff_left trivial).symm
  | item deep text =>
    unfold Fits Leaves Plain
    tauto
  | pair key value =>
    unfold Fits Leaves Plain
    tauto
  | other => exact (and_iff_left trivial).symm

theorem tidy_iff (l : List LineShape) :
    r.Tidy inline fmt l ↔ (∀ s ∈ l, s.read = s) ∧ r.All inline fmt (fun r => r.Leaves fmt) l ∧
      r.All inline fmt (fun r => r.Plain fmt) l := by
  induction l generalizing r with
  | nil => exact ⟨fun _ => ⟨fun s hs => (by cases hs), trivial, trivial⟩, fun _ => trivial⟩
  | cons s l ih =>
    unfold Tidy All
    rw [fits_iff, ih, List.forall_mem_cons]
    tauto

end Notes

section Lines

variable (inline : String → List String) (fmt : RegistryFormat)

/-- The shapes of the lines that are not blank and no comments. -/
def shapes (lines : List (String × ℕ)) : List LineShape :=
  (lines.filter (fun l => isSignificant l.1)).map (fun l => shape fmt.sectionName l.1)

/-- What a reader notes of some lines. -/
def notes (lines : List (String × ℕ)) : Notes :=
  ((shapes fmt lines).map LineShape.read).foldl (Notes.note inline fmt) {}

/-- The notes of lines that say what the parser takes them for. -/
theorem notes_of_read {lines : List (String × ℕ)} (h : ∀ s ∈ shapes fmt lines, s.read = s) :
    notes inline fmt lines = (shapes fmt lines).foldl (Notes.note inline fmt) {} := by
  unfold notes
  rw [List.map_congr_left h, List.map_id']

end Lines

/-! ## Where a line has left something -/

/-- The line has written the value, or an item of it. -/
def Field.HasLine : Field → ℕ → Prop
  | .scalar line _, n => line = n
  | .list line items, n => line = n ∨ ∃ item ∈ items, item.1 = n

/-- Where a line can have an effect. -/
inductive Place where
  | opening
  | entry (name : String)
  | field (name key : String)
  deriving DecidableEq

/-- What a line can leave in the result. -/
inductive Mark where
  | opening
  | header (name : String)
  | item (text : String)
  | key (key : String)
  | nothing

/-- What a line means to leave. -/
def LineShape.mark : LineShape → Mark
  | .opening => .opening
  | .header name => .header name
  | .item _ text => .item text
  | .pair key _ => .key key
  | .other => .nothing

theorem read_of_mark {s : LineShape} (h : s.read.mark = s.mark) : s.read = s := by
  cases s with
  | opening => rfl
  | header name => exact congrArg LineShape.header (Mark.header.inj h)
  | item deep text => exact congrArg (LineShape.item deep) (Mark.item.inj h)
  | pair key value => exact congrArg (LineShape.pair · value) (Mark.key.inj h)
  | other => rfl

/-- The line that wrote the key of a field.  The first item outside of a list wrote none. -/
def Field.OfKey : Field → ℕ → Prop
  | .scalar line _, n => line = n
  | .list line items, n => line = n ∧ ∀ item ∈ items, item.1 ≠ n

namespace ParserState

variable (σ : ParserState)

/-- The line has an effect at a place. -/
def At : Place → ℕ → Prop
  | .opening, n => σ.opened = some n
  | .entry name, n => ∃ e, σ.registry name = some e ∧ e.line = n
  | .field name key, n => ∃ f, σ.field name key = some f ∧ f.HasLine n

/-- The line has an effect. -/
def HasLine (n : ℕ) : Prop := ∃ place, σ.At place n

/-- The line has left a mark. -/
def Shows (n : ℕ) : Mark → Prop
  | .opening => σ.opened = some n
  | .header name => ∃ e, σ.registry name = some e ∧ e.line = n
  | .item text => ∃ name key line items,
      σ.field name key = some (.list line items) ∧ (n, text) ∈ items
  | .key key => ∃ name f, σ.field name key = some f ∧ f.OfKey n
  | .nothing => False

/-- Lines have smaller numbers than the bound, and every line has its effect at one place. -/
structure Numbered (bound : ℕ) : Prop where
  lt : ∀ place n, σ.At place n → n < bound
  unique : ∀ n place place', σ.At place n → σ.At place' n → place = place'

/-- Nothing that was left is lost, and the new line leaves something. -/
def Keeps (n : ℕ) (σ' : ParserState) : Prop := (∀ m, σ.HasLine m → σ'.HasLine m) ∧ σ'.HasLine n

variable {σ}

theorem registry_assign (name key : String) (f : Field) (x : String) :
    (σ.assign name key f).registry x = if x = name then
      (σ.registry name).map (fun e =>
        { e with fields := Function.update e.fields key (some f) }) else σ.registry x :=
  Function.update_apply _ _ _ _

theorem field_assign (name key : String) (f : Field) (h : (σ.registry name).isSome = true)
    (x k : String) : (σ.assign name key f).field x k =
      if x = name ∧ k = key then some f else σ.field x k := by
  obtain ⟨e, he⟩ := Option.isSome_iff_exists.mp h
  unfold field
  rw [registry_assign]
  by_cases hx : x = name
  · subst hx
    rw [if_pos rfl, he, Option.map_some, Option.bind_some, Option.bind_some]
    by_cases hk : k = key
    · rw [if_pos ⟨rfl, hk⟩, hk]
      exact Function.update_self key (some f) e.fields
    · rw [if_neg (fun hand => hk hand.2)]
      exact Function.update_of_ne hk (some f) e.fields
  · rw [if_neg hx, if_neg (fun hand => hx hand.1)]

theorem isSome_registry_assign (name key : String) (f : Field) (x : String) :
    ((σ.assign name key f).registry x).isSome = (σ.registry x).isSome := by
  rw [registry_assign]
  by_cases hx : x = name
  · rw [if_pos hx, Option.isSome_map, hx]
  · rw [if_neg hx]

theorem at_assign (name key : String) (f : Field) (h : (σ.registry name).isSome = true)
    (place : Place) (m : ℕ) : (σ.assign name key f).At place m ↔
      if place = .field name key then f.HasLine m else σ.At place m := by
  cases place with
  | opening => exact Iff.rfl
  | entry x =>
    -- the line of the header stays
    show (∃ e, (σ.assign name key f).registry x = some e ∧ e.line = m) ↔
      ∃ e, σ.registry x = some e ∧ e.line = m
    rw [registry_assign]
    by_cases hx : x = name
    · subst hx
      obtain ⟨e, he⟩ := Option.isSome_iff_exists.mp h
      rw [if_pos rfl, he, Option.map_some]
      simp
    · rw [if_neg hx]
  | field x k =>
    show (∃ f', (σ.assign name key f).field x k = some f' ∧ f'.HasLine m) ↔ _
    rw [field_assign name key f h]
    by_cases hxk : x = name ∧ k = key
    · obtain ⟨rfl, rfl⟩ := hxk
      simp
    · have hplace : Place.field x k ≠ .field name key := by
        intro heq
        exact hxk (Place.field.inj heq)
      rw [if_neg hxk, if_neg hplace]
      exact Iff.rfl

/-- The place of the new line was free, and everything else stayed. -/
theorem keeps_of_free {σ' : ParserState} {n : ℕ} (place : Place) (hfree : ∀ m, ¬ σ.At place m)
    (hnew : σ'.At place n) (hframe : ∀ p m, p ≠ place → σ.At p m → σ'.At p m) :
    σ.Keeps n σ' := by
  refine ⟨?_, place, hnew⟩
  rintro m ⟨p, hp⟩
  refine ⟨p, hframe p m ?_ hp⟩
  rintro rfl
  exact hfree m hp

/-- The new line took the place of another one. -/
theorem not_keeps_of_taken {σ' : ParserState} {n m : ℕ} (place : Place) (hnum : σ.Numbered n)
    (hold : σ.At place m) (hnew : ∀ k, σ'.At place k → k = n)
    (hframe : ∀ p k, p ≠ place → σ'.At p k → σ.At p k) : ¬ σ.Keeps n σ' := by
  intro h
  obtain ⟨p, hp⟩ := h.1 m ⟨place, hold⟩
  by_cases hplace : p = place
  · subst hplace
    have hlt := hnum.lt _ _ hold
    rw [hnew m hp] at hlt
    exact lt_irrefl _ hlt
  · exact hplace (hnum.unique m p place (hframe p m hplace hp) hold)

end ParserState

/-! ## What one line does -/

section Steps

variable (py : PyRuntime) (fmt : RegistryFormat)

/-- What the parser makes of line number `n`, by its shape. -/
inductive Reads (σ : ParserState) (n : ℕ) : LineShape → ParserState → Prop
  | opening : Reads σ n .opening { σ with opened := some n }
  | header (name : String) : σ.opened ≠ none → Reads σ n (.header name)
      { σ with
        current := some name
        currentListKey := none
        registry := Function.update σ.registry name (some { line := n }) }
  | item {deep : Bool} {text name key : String} {σ' : ParserState} : σ.current = some name →
      (σ.currentListKey = some key ∨
        σ.currentListKey = none ∧ deep = true ∧ fmt.looseKey = some key) →
      σ.append name key n text = .ok σ' → Reads σ n (.item deep text) σ'
  | dropped {text name : String} : σ.current = some name → σ.currentListKey = none →
      Reads σ n (.item false text) σ
  | list {name key value : String} : σ.current = some name → strip value = "" →
      key ∈ fmt.listKeys → Reads σ n (.pair key value)
        { σ.assign name key (.list n []) with currentListKey := some key }
  | scalar {name key value : String} : σ.current = some name → strip value ≠ "" →
      Reads σ n (.pair key value)
        { σ.assign name key (.scalar n (parseScalar py value)) with currentListKey := none }

variable {py fmt} {σ σ' : ParserState} {n : ℕ}

/-- A line that is accepted does one of these. -/
theorem reads_of_parseLine {raw : String} (h : parseLine py fmt σ n raw = .ok σ') :
    Reads py fmt σ n (shape fmt.sectionName raw) σ' := by
  unfold parseLine at h
  cases hshape : shape fmt.sectionName raw with
  | opening =>
    simp only [hshape, Except.ok.injEq] at h
    exact h ▸ .opening
  | header name =>
    simp only [hshape] at h
    split at h
    · cases h
    · rename_i hopened
      exact Except.ok.inj h ▸ .header name hopened
  | item deep text =>
    simp only [hshape] at h
    split at h
    · cases h
    · cases hcurrent : σ.current with
      | none => simp [hcurrent] at h
      | some name =>
        simp only [hcurrent] at h
        cases hlist : σ.currentListKey with
        | some key =>
          simp only [hlist] at h
          exact .item hcurrent (Or.inl hlist) h
        | none =>
          simp only [hlist] at h
          -- outside of a list only the model registry takes the item
          cases deep with
          | false => exact Except.ok.inj h ▸ .dropped hcurrent hlist
          | true =>
            simp only [if_true] at h
            cases hloose : fmt.looseKey with
            | none => simp [hloose] at h
            | some key =>
              simp only [hloose] at h
              exact .item hcurrent (Or.inr ⟨hlist, rfl, hloose⟩) h
  | pair key value =>
    simp only [hshape] at h
    split at h
    · cases h
    · cases hcurrent : σ.current with
      | none => simp [hcurrent] at h
      | some name =>
        simp only [hcurrent] at h
        -- a key without a value opens a list when it is one of the list keys
        split_ifs at h with hkey hvalue hmem
        · exact Except.ok.inj h ▸ .list hcurrent hvalue hmem
        · exact Except.ok.inj h ▸ .scalar hcurrent hvalue
  | other =>
    simp only [hshape] at h
    split at h <;> cases h

/-- An item is added to a list, or begins one. -/
theorem append_cases {name key item : String} (h : σ.append name key n item = .ok σ') :
    ∃ line items, σ' = σ.assign name key (.list line (items ++ [(n, item)])) ∧
      (σ.field name key = some (.list line items) ∨
        σ.field name key = none ∧ line = n ∧ items = []) := by
  unfold ParserState.append at h
  cases hfield : σ.field name key with
  | none =>
    simp only [hfield, Except.ok.injEq] at h
    exact ⟨n, [], h.symm, Or.inr ⟨rfl, rfl, rfl⟩⟩
  | some f =>
    cases f with
    | scalar line v => simp [hfield] at h
    | list line items =>
      simp only [hfield, Except.ok.injEq] at h
      exact ⟨line, items, h.symm, Or.inl rfl⟩

/-! ## The notes follow the parser -/

variable (fmt) in
/-- What was noted of the lines so far agrees with the variables of the parser. -/
structure Mirrors (σ : ParserState) (r : Notes) : Prop where
  opened : r.opened = true ↔ σ.opened ≠ none
  names : ∀ name, name ∈ r.names ↔ (σ.registry name).isSome = true
  entry : σ.current = r.entry
  current : ∀ name, r.entry = some name → (σ.registry name).isSome = true
  list : σ.currentListKey = r.openList fmt
  keys : ∀ name, r.entry = some name → ∀ key, (σ.field name key).isSome = true ↔
    key ∈ r.keys ∨ r.loose = true ∧ fmt.looseKey = some key
  /-- the list that is open is a list -/
  openList : ∀ name key, r.entry = some name → r.openList fmt = some key →
    ∃ line items, σ.field name key = some (.list line items)
  /-- a value beside a key is stored as a scalar -/
  beside : ∀ name key value, r.entry = some name → r.lastPair = some (key, value) →
    strip value ≠ "" → ∃ line v, σ.field name key = some (.scalar line v)

theorem mirrors_start : Mirrors fmt {} {} where
  opened := by simp
  names name := by simp
  entry := rfl
  current name h := by cases h
  list := rfl
  keys name h := by cases h
  openList name key h := by cases h
  beside name key value h := by cases h

variable {r : Notes} (inline : String → List String)

theorem openList_of_blank {key value : String} (hmem : key ∈ fmt.listKeys)
    (hvalue : strip value = "") (r : Notes) :
    (r.note inline fmt (.pair key value)).openList fmt = some key := by
  unfold Notes.openList Notes.note
  simp [hmem, hvalue]

theorem openList_of_value {value : String} (hvalue : strip value ≠ "") (key : String)
    (r : Notes) : (r.note inline fmt (.pair key value)).openList fmt = none := by
  unfold Notes.openList Notes.note
  simp [hvalue]

/-- A value is stored for the current entry. -/
theorem Mirrors.isSome_current (hf : Mirrors fmt σ r) {name : String}
    (hcurrent : σ.current = some name) : (σ.registry name).isSome = true :=
  hf.current name (hf.entry ▸ hcurrent)

theorem mirrors_header (hf : Mirrors fmt σ r) (name : String) :
    Mirrors fmt
      { σ with
        current := some name
        currentListKey := none
        registry := Function.update σ.registry name (some { line := n }) }
      (r.note inline fmt (.header name)) where
  opened := hf.opened
  names x := by
    show x ∈ name :: r.names ↔
      (Function.update σ.registry name (some { line := n }) x).isSome = true
    rw [List.mem_cons, Function.update_apply, hf.names]
    by_cases hx : x = name
    · simp [hx]
    · simp [hx]
  entry := rfl
  current x hx := by
    show (Function.update σ.registry name (some { line := n }) x).isSome = true
    rw [← Option.some.inj hx, Function.update_self, Option.isSome_some]
  list := rfl
  keys x hx key := by
    have hfield : ((Function.update σ.registry name (some { line := n }) x).bind
        (fun e => e.fields key)) = none := by
      rw [← Option.some.inj hx, Function.update_self]
      rfl
    show ((Function.update σ.registry name (some { line := n }) x).bind
      (fun e => e.fields key)).isSome = true ↔ key ∈ [] ∨ false = true ∧ _
    rw [hfield]
    simp
  openList x key _ h := by cases h
  beside x key value _ h := by cases h

theorem mirrors_item (hf : Mirrors fmt σ r) {deep : Bool} {text name key : String}
    (hcurrent : σ.current = some name)
    (hkey : σ.currentListKey = some key ∨
      σ.currentListKey = none ∧ deep = true ∧ fmt.looseKey = some key)
    (happend : σ.append name key n text = .ok σ') :
    Mirrors fmt σ' (r.note inline fmt (.item deep text)) := by
  have hname := hf.isSome_current hcurrent
  have hentry : r.entry = some name := hf.entry ▸ hcurrent
  obtain ⟨line, items, rfl, hold⟩ := append_cases happend
  have hfield := ParserState.field_assign name key (.list line (items ++ [(n, text)])) hname
  constructor
  · exact hf.opened
  · intro x
    rw [ParserState.isSome_registry_assign]
    exact hf.names x
  · exact hf.entry
  · intro x hx
    rw [ParserState.isSome_registry_assign]
    exact hf.current x hx
  · exact hf.list
  · intro x hx k
    obtain rfl : x = name := Option.some.inj (hx.symm.trans hentry)
    have hkeys := hf.keys x hentry k
    show _ ↔ k ∈ r.keys ∨ (r.loose || (deep && (r.openList fmt).isNone)) = true ∧ _
    rw [hfield, ← hf.list]
    rcases hkey with hlist | ⟨hlist, hdeep, hloose⟩
    · -- the list is already there
      have hopen := hf.openList x key hentry (hf.list ▸ hlist)
      by_cases hk : k = key
      · subst hk
        obtain ⟨l, its, hits⟩ := hopen
        rw [hits] at hkeys
        simpa [hlist] using hkeys
      · simpa [hlist, hk] using hkeys
    · by_cases hk : k = key
      · simp [hlist, hdeep, hloose, hk]
      · have hne : fmt.looseKey ≠ some k := by
          rw [hloose]
          exact fun h => hk (Option.some.inj h).symm
        simpa [hlist, hdeep, hk, hne] using hkeys
  · intro x k hx hk
    obtain rfl : x = name := Option.some.inj (hx.symm.trans hentry)
    rw [hfield]
    by_cases hkk : k = key
    · exact ⟨line, items ++ [(n, text)], if_pos ⟨rfl, hkk⟩⟩
    · rw [if_neg (fun hand => hkk hand.2)]
      exact hf.openList x k hx hk
  · intro x k value hx hlast hvalue
    obtain rfl : x = name := Option.some.inj (hx.symm.trans hentry)
    obtain ⟨l, v, hscalar⟩ := hf.beside x k value hx hlast hvalue
    have hkk : k ≠ key := by
      rintro rfl
      rcases hold with hlist | ⟨hnone, -, -⟩
      · rw [hscalar] at hlist
        cases hlist
      · rw [hscalar] at hnone
        cases hnone
    rw [hfield, if_neg (fun hand => hkk hand.2)]
    exact ⟨l, v, hscalar⟩

/-- A line with a key: the key is there afterwards. -/
theorem mirrors_pair (hf : Mirrors fmt σ r) {name key value : String}
    (hcurrent : σ.current = some name) (f : Field) (listKey : Option String)
    (hlist : listKey = (r.note inline fmt (.pair key value)).openList fmt)
    (hopen : listKey ≠ none → ∃ line items, f = .list line items)
    (hbeside : strip value ≠ "" → ∃ line v, f = .scalar line v)
    (hkey : ∀ k, listKey = some k → k = key) :
    Mirrors fmt { σ.assign name key f with currentListKey := listKey }
      (r.note inline fmt (.pair key value)) := by
  have hname := hf.isSome_current hcurrent
  have hentry : r.entry = some name := hf.entry ▸ hcurrent
  have hfield := ParserState.field_assign name key f hname
  constructor
  · exact hf.opened
  · intro x
    show _ ↔ ((σ.assign name key f).registry x).isSome = true
    rw [ParserState.isSome_registry_assign]
    exact hf.names x
  · exact hf.entry
  · intro x hx
    show ((σ.assign name key f).registry x).isSome = true
    rw [ParserState.isSome_registry_assign]
    exact hf.current x hx
  · exact hlist
  · intro x hx k
    obtain rfl : x = name := Option.some.inj (hx.symm.trans hentry)
    show ((σ.assign x key f).field x k).isSome = true ↔ k ∈ key :: r.keys ∨ r.loose = true ∧ _
    -- the key of the line joins the keys of its entry
    rw [hfield, List.mem_cons]
    by_cases hk : k = key
    · simp [hk]
    · simpa [hk] using hf.keys x hentry k
  · intro x k hx hk
    obtain rfl : x = name := Option.some.inj (hx.symm.trans hentry)
    rw [← hlist] at hk
    obtain rfl := hkey k hk
    obtain ⟨line, items, rfl⟩ := hopen (by rw [hk]; exact Option.some_ne_none k)
    refine ⟨line, items, ?_⟩
    show (σ.assign x k _).field x k = _
    rw [hfield, if_pos ⟨rfl, rfl⟩]
  · intro x k v hx hlast hvalue
    obtain rfl : x = name := Option.some.inj (hx.symm.trans hentry)
    obtain ⟨rfl, rfl⟩ := Prod.mk.inj (Option.some.inj hlast)
    obtain ⟨line, s, rfl⟩ := hbeside hvalue
    refine ⟨line, s, ?_⟩
    show (σ.assign x key _).field x key = _
    rw [hfield, if_pos ⟨rfl, rfl⟩]

/-- Every line is noted. -/
theorem mirrors_step {s : LineShape} (hf : Mirrors fmt σ r) (h : Reads py fmt σ n s σ') :
    Mirrors fmt σ' (r.note inline fmt s) := by
  cases h with
  | opening => exact
    { opened := by simp [Notes.note]
      names := hf.names
      entry := hf.entry
      current := hf.current
      list := hf.list
      keys := hf.keys
      openList := hf.openList
      beside := hf.beside }
  | header name hopened => exact mirrors_header inline hf name
  | item hcurrent hkey happend => exact mirrors_item inline hf hcurrent hkey happend
  | dropped hcurrent hlist => exact
    { opened := hf.opened
      names := hf.names
      entry := hf.entry
      current := hf.current
      list := hf.list
      keys := by
        intro x hx k
        have hkeys := hf.keys x hx k
        simpa [Notes.note] using hkeys
      openList := hf.openList
      beside := hf.beside }
  | @list name key value hcurrent hvalue hmem =>
    apply mirrors_pair inline hf hcurrent
    · exact (openList_of_blank inline hmem hvalue r).symm
    · exact fun _ => ⟨n, [], rfl⟩
    · exact fun hne => absurd hvalue hne
    · exact fun k hk => (Option.some.inj hk).symm
  | @scalar name key value hcurrent hvalue =>
    apply mirrors_pair inline hf hcurrent
    · exact (openList_of_value inline hvalue key r).symm
    · exact fun hne => absurd rfl hne
    · exact fun _ => ⟨n, _, rfl⟩
    · exact fun k hk => by cases hk

/-! ## Lines that leave something -/

theorem exists_hasLine (f : Field) : ∃ m, f.HasLine m := by
  cases f with
  | scalar line v => exact ⟨line, rfl⟩
  | list line items => exact ⟨line, Or.inl rfl⟩

/-- A new header takes the place of an entry. -/
theorem at_header (name : String) (l : Option String) (place : Place) (m : ℕ) :
    ParserState.At
      { σ with
        current := some name
        currentListKey := l
        registry := Function.update σ.registry name (some { line := n }) } place m ↔
      (place = .entry name ∧ m = n) ∨
        (place ≠ .entry name ∧ (∀ key, place ≠ .field name key) ∧ σ.At place m) := by
  cases place with
  | opening => simp [ParserState.At]
  | entry x =>
    by_cases hx : x = name
    · subst hx
      simp [ParserState.At, eq_comm]
    · simp [ParserState.At, hx]
  | field x k =>
    by_cases hx : x = name
    · subst hx
      simp [ParserState.At, ParserState.field]
    · simp [ParserState.At, ParserState.field, hx]

/-- What a line leaves, it leaves at one place. -/
theorem at_step {s : LineShape} (hf : Mirrors fmt σ r) (h : Reads py fmt σ n s σ') :
    ∃ place, ∀ p m, σ'.At p m → σ.At p m ∨ p = place ∧ m = n := by
  cases h with
  | opening =>
    refine ⟨.opening, ?_⟩
    intro p m hp
    cases p with
    | opening => exact Or.inr ⟨rfl, (Option.some.inj hp).symm⟩
    | entry x => exact Or.inl hp
    | field x k => exact Or.inl hp
  | header name hopened =>
    refine ⟨.entry name, ?_⟩
    intro p m hp
    rcases (at_header name none p m).mp hp with hnew | ⟨-, -, hold⟩
    · exact Or.inr hnew
    · exact Or.inl hold
  | @item deep text name key σ' hcurrent hkey happend =>
    obtain ⟨line, items, rfl, hold⟩ := append_cases happend
    refine ⟨.field name key, ?_⟩
    intro p m hp
    rw [ParserState.at_assign name key _ (hf.isSome_current hcurrent)] at hp
    by_cases hplace : p = .field name key
    · rw [if_pos hplace] at hp
      subst hplace
      -- the list was there, or the item is the first of a list that no line has opened
      rcases hold with hlist | ⟨-, rfl, rfl⟩
      · rcases hp with hline | ⟨item, hitem, hm⟩
        · exact Or.inl ⟨_, hlist, Or.inl hline⟩
        · rcases List.mem_append.mp hitem with hmem | hmem
          · exact Or.inl ⟨_, hlist, Or.inr ⟨item, hmem, hm⟩⟩
          · rw [List.mem_singleton.mp hmem] at hm
            exact Or.inr ⟨rfl, hm.symm⟩
      · rcases hp with hline | ⟨item, hitem, hm⟩
        · exact Or.inr ⟨rfl, hline.symm⟩
        · rw [List.mem_singleton.mp hitem] at hm
          exact Or.inr ⟨rfl, hm.symm⟩
    · rw [if_neg hplace] at hp
      exact Or.inl hp
  | dropped hcurrent hlist => exact ⟨.opening, fun p m hp => Or.inl hp⟩
  | @list name key value hcurrent hvalue hmem =>
    refine ⟨.field name key, ?_⟩
    intro p m hp
    have hp' : (σ.assign name key (.list n [])).At p m := hp
    rw [ParserState.at_assign name key _ (hf.isSome_current hcurrent)] at hp'
    split_ifs at hp' with hplace
    · rcases hp' with hline | ⟨item, hitem, -⟩
      · exact Or.inr ⟨hplace, hline.symm⟩
      · cases hitem
    · exact Or.inl hp'
  | @scalar name key value hcurrent hvalue =>
    refine ⟨.field name key, ?_⟩
    intro p m hp
    have hp' : (σ.assign name key (.scalar n (parseScalar py value))).At p m := hp
    rw [ParserState.at_assign name key _ (hf.isSome_current hcurrent)] at hp'
    split_ifs at hp' with hplace
    · exact Or.inr ⟨hplace, hp'.symm⟩
    · exact Or.inl hp'

theorem numbered_step {s : LineShape} (hf : Mirrors fmt σ r) (hn : σ.Numbered n)
    (h : Reads py fmt σ n s σ') : σ'.Numbered (n + 1) := by
  obtain ⟨place, hat⟩ := at_step hf h
  constructor
  · intro p m hp
    rcases hat p m hp with hold | ⟨-, rfl⟩
    · exact Nat.lt_succ_of_lt (hn.lt p m hold)
    · exact Nat.lt_succ_self m
  · intro m p p' hp hp'
    rcases hat p m hp with hold | ⟨rfl, rfl⟩
    · rcases hat p' m hp' with hold' | ⟨-, rfl⟩
      · exact hn.unique m p p' hold hold'
      · exact absurd (hn.lt p m hold) (lt_irrefl m)
    · rcases hat p' m hp' with hold' | ⟨rfl, -⟩
      · exact absurd (hn.lt p' m hold') (lt_irrefl m)
      · rfl

theorem hasLine_step {s : LineShape} (hf : Mirrors fmt σ r) (h : Reads py fmt σ n s σ') {m : ℕ}
    (hm : σ'.HasLine m) : σ.HasLine m ∨ m = n := by
  obtain ⟨place, hat⟩ := at_step hf h
  obtain ⟨p, hp⟩ := hm
  exact (hat p m hp).imp (fun hold => ⟨p, hold⟩) And.right

/-! ## Marks -/

/-- A line that has an effect has left a mark. -/
theorem shows_of_hasLine {m : ℕ} (h : σ.HasLine m) : ∃ mark, σ.Shows m mark := by
  obtain ⟨place, hat⟩ := h
  cases place with
  | opening => exact ⟨.opening, hat⟩
  | entry name => exact ⟨.header name, hat⟩
  | field name key =>
    obtain ⟨f, hfield, hline⟩ := hat
    cases f with
    | scalar line v => exact ⟨.key key, name, _, hfield, hline⟩
    | list line items =>
      by_cases hitem : ∃ item ∈ items, item.1 = m
      · obtain ⟨⟨line', text⟩, hmem, rfl⟩ := hitem
        exact ⟨.item text, name, key, line, items, hfield, hmem⟩
      · refine ⟨.key key, name, _, hfield, ?_, fun item hmem heq => hitem ⟨item, hmem, heq⟩⟩
        exact hline.resolve_right hitem

theorem hasLine_of_shows {m : ℕ} {mark : Mark} (h : σ.Shows m mark) : σ.HasLine m := by
  cases mark with
  | opening => exact ⟨.opening, h⟩
  | header name => exact ⟨.entry name, h⟩
  | item text =>
    obtain ⟨name, key, line, items, hfield, hmem⟩ := h
    exact ⟨.field name key, _, hfield, Or.inr ⟨_, hmem, rfl⟩⟩
  | key key =>
    obtain ⟨name, f, hfield, hline⟩ := h
    refine ⟨.field name key, f, hfield, ?_⟩
    cases f with
    | scalar line v => exact hline
    | list line items => exact Or.inl hline.1
  | nothing => exact h.elim

/-- A field that a line writes shows the old marks and the one of the line. -/
theorem shows_assign {name key : String} {f : Field} (hname : (σ.registry name).isSome = true)
    {m : ℕ} {mark : Mark} (h : (σ.assign name key f).Shows m mark) : σ.Shows m mark ∨
      (mark = .key key ∧ f.OfKey m) ∨
        ∃ line items text, f = .list line items ∧ mark = .item text ∧ (m, text) ∈ items := by
  cases mark with
  | opening => exact Or.inl h
  | header x =>
    obtain ⟨e, he, hline⟩ := h
    refine Or.inl ?_
    rw [ParserState.registry_assign] at he
    split_ifs at he with hx
    · subst hx
      obtain ⟨e', he', rfl⟩ := Option.map_eq_some_iff.mp he
      exact ⟨e', he', hline⟩
    · exact ⟨e, he, hline⟩
  | item text =>
    obtain ⟨x, k, line, items, hfield, hmem⟩ := h
    rw [ParserState.field_assign name key f hname] at hfield
    split_ifs at hfield with hxk
    · exact Or.inr (Or.inr ⟨line, items, text, Option.some.inj hfield, rfl, hmem⟩)
    · exact Or.inl ⟨x, k, line, items, hfield, hmem⟩
  | key k =>
    obtain ⟨x, g, hfield, hline⟩ := h
    rw [ParserState.field_assign name key f hname] at hfield
    split_ifs at hfield with hxk
    · obtain rfl := Option.some.inj hfield
      exact Or.inr (Or.inl ⟨congrArg Mark.key hxk.2, hline⟩)
    · exact Or.inl ⟨x, g, hfield, hline⟩
  | nothing => exact h.elim

/-- A line leaves no other mark than the one of its shape. -/
theorem shows_step {s : LineShape} (hf : Mirrors fmt σ r) (h : Reads py fmt σ n s σ') {m : ℕ}
    {mark : Mark} (hm : σ'.Shows m mark) : σ.Shows m mark ∨ m = n ∧ s.mark = mark := by
  cases h with
  | opening =>
    cases mark with
    | opening => exact Or.inr ⟨(Option.some.inj hm).symm, rfl⟩
    | header x => exact Or.inl hm
    | item text => exact Or.inl hm
    | key k => exact Or.inl hm
    | nothing => exact Or.inl hm
  | header name hopened =>
    -- the marks of the entry that the header replaces are gone
    have hfield : ∀ x k f, (Function.update σ.registry name (some { line := n }) x).bind
        (fun e => e.fields k) = some f → σ.field x k = some f := by
      intro x k f hx
      by_cases heq : x = name
      · rw [heq, Function.update_self] at hx
        cases hx
      · rwa [Function.update_of_ne heq] at hx
    cases mark with
    | opening => exact Or.inl hm
    | header x =>
      obtain ⟨e, he, hline⟩ := hm
      have he' : Function.update σ.registry name (some { line := n }) x = some e := he
      by_cases heq : x = name
      · subst heq
        rw [Function.update_self] at he'
        obtain rfl := Option.some.inj he'
        exact Or.inr ⟨hline.symm, rfl⟩
      · rw [Function.update_of_ne heq] at he'
        exact Or.inl ⟨e, he', hline⟩
    | item text =>
      obtain ⟨x, k, line, items, hx, hmem⟩ := hm
      exact Or.inl ⟨x, k, line, items, hfield x k _ hx, hmem⟩
    | key k =>
      obtain ⟨x, f, hx, hline⟩ := hm
      exact Or.inl ⟨x, f, hfield x k f hx, hline⟩
    | nothing => exact hm.elim
  | @item deep text name key σ' hcurrent hkey happend =>
    obtain ⟨line, items, rfl, hold⟩ := append_cases happend
    rcases shows_assign (hf.isSome_current hcurrent) hm with
      hbefore | ⟨rfl, hline, hnone⟩ | ⟨line', items', text', hlist, rfl, hmem⟩
    · exact Or.inl hbefore
    · -- the key was there before, or the item stands first in its list
      rcases hold with hlist | ⟨-, rfl, rfl⟩
      · exact Or.inl ⟨name, _, hlist, hline,
          fun item hitem => hnone item (List.mem_append_left _ hitem)⟩
      · exact absurd hline (hnone _ (List.mem_append_right _ (List.mem_singleton_self _)))
    · obtain ⟨rfl, rfl⟩ := Field.list.inj hlist
      rcases List.mem_append.mp hmem with hitem | hitem
      · rcases hold with hfield | ⟨-, -, rfl⟩
        · exact Or.inl ⟨name, key, line, items, hfield, hitem⟩
        · cases hitem
      · obtain ⟨rfl, rfl⟩ := Prod.mk.inj (List.mem_singleton.mp hitem)
        exact Or.inr ⟨rfl, rfl⟩
  | dropped hcurrent hlist => exact Or.inl hm
  | @list name key value hcurrent hvalue hmem =>
    have hm' : (σ.assign name key (.list n [])).Shows m mark := hm
    rcases shows_assign (hf.isSome_current hcurrent) hm' with
      hbefore | ⟨rfl, hline, -⟩ | ⟨line, items, text, hlist, -, hitem⟩
    · exact Or.inl hbefore
    · exact Or.inr ⟨hline.symm, rfl⟩
    · obtain ⟨-, rfl⟩ := Field.list.inj hlist
      cases hitem
  | @scalar name key value hcurrent hvalue =>
    have hm' : (σ.assign name key (.scalar n (parseScalar py value))).Shows m mark := hm
    rcases shows_assign (hf.isSome_current hcurrent) hm' with
      hbefore | ⟨rfl, hline⟩ | ⟨line, items, text, hlist, -, -⟩
    · exact Or.inl hbefore
    · exact Or.inr ⟨hline.symm, rfl⟩
    · cases hlist

/-- A line with a key leaves something, and loses nothing, when the key is new. -/
theorem keeps_pair (hf : Mirrors fmt σ r) (hn : σ.Numbered n) {name key : String}
    (hcurrent : σ.current = some name) (f : Field) (hline : ∀ m, f.HasLine m ↔ m = n)
    (listKey : Option String) :
    σ.Keeps n { σ.assign name key f with currentListKey := listKey } ↔
      key ∉ r.keys ∧ (r.loose = true → fmt.looseKey ≠ some key) := by
  have hname := hf.isSome_current hcurrent
  have hkeys := hf.keys name (hf.entry ▸ hcurrent) key
  have hat : ∀ place m, ParserState.At { σ.assign name key f with currentListKey := listKey }
      place m ↔ if place = .field name key then f.HasLine m else σ.At place m := by
    intro place m
    rw [← ParserState.at_assign name key f hname]
    cases place with
    | opening => exact Iff.rfl
    | entry x => exact Iff.rfl
    | field x k => exact Iff.rfl
  have hfree : σ.field name key = none ↔
      key ∉ r.keys ∧ (r.loose = true → fmt.looseKey ≠ some key) := by
    rw [← Option.not_isSome_iff_eq_none, hkeys]
    tauto
  rw [← hfree]
  constructor
  · -- what stood under the key is replaced, and its lines are gone
    intro hkeeps
    by_contra hsome
    obtain ⟨old, hold⟩ := Option.ne_none_iff_exists'.mp hsome
    obtain ⟨m, hm⟩ := exists_hasLine old
    refine ParserState.not_keeps_of_taken (.field name key) hn ⟨old, hold, hm⟩ ?_ ?_
      hkeeps
    · intro k hk
      have hk' := (hat _ k).mp hk
      rw [if_pos rfl] at hk'
      exact (hline k).mp hk'
    · intro p k hp hk
      have hk' := (hat p k).mp hk
      rwa [if_neg hp] at hk'
  · intro hnone
    refine ParserState.keeps_of_free (.field name key) ?_ ?_ ?_
    · rintro m ⟨old, hold, -⟩
      rw [hnone] at hold
      cases hold
    · refine (hat _ n).mpr ?_
      rw [if_pos rfl]
      exact (hline n).mpr rfl
    · intro p m hp hm
      refine (hat p m).mpr ?_
      rwa [if_neg hp]

/-- **A line leaves something and loses nothing** exactly when the notes say so. -/
theorem keeps_iff {s : LineShape} (hf : Mirrors fmt σ r) (hn : σ.Numbered n)
    (h : Reads py fmt σ n s σ') : σ.Keeps n σ' ↔ r.Leaves fmt s := by
  cases h with
  | opening =>
    constructor
    · intro hkeeps
      by_contra hopened
      obtain ⟨m, hm⟩ := Option.ne_none_iff_exists'.mp
        (hf.opened.mp (by simpa [Notes.Leaves] using hopened))
      refine ParserState.not_keeps_of_taken Place.opening hn hm ?_ ?_ hkeeps
      · exact fun k hk => (Option.some.inj hk).symm
      · intro p k hp hk
        cases p with
        | opening => exact absurd rfl hp
        | entry x => exact hk
        | field x k => exact hk
    · intro hopened
      have hnone : σ.opened = none := by
        by_contra hne
        exact Bool.false_ne_true (hopened.symm.trans (hf.opened.mpr hne))
      refine ParserState.keeps_of_free Place.opening ?_ rfl ?_
      · intro m hm
        rw [show σ.opened = some m from hm] at hnone
        cases hnone
      · intro p m hp hm
        cases p with
        | opening => exact absurd rfl hp
        | entry x => exact hm
        | field x k => exact hm
  | header name hopened =>
    constructor
    · -- the entry of that name would be replaced
      intro hkeeps hmem
      obtain ⟨e, he⟩ := Option.isSome_iff_exists.mp ((hf.names name).mp hmem)
      refine ParserState.not_keeps_of_taken (.entry name) hn ⟨e, he, rfl⟩ ?_ ?_ hkeeps
      · intro k hk
        rcases (at_header name none _ k).mp hk with hnew | hold
        · exact hnew.2
        · exact absurd rfl hold.1
      · intro p k hp hk
        rcases (at_header name none p k).mp hk with hnew | hold
        · exact absurd hnew.1 hp
        · exact hold.2.2
    · intro hfresh
      have hnone : σ.registry name = none := by
        rw [← Option.not_isSome_iff_eq_none, ← hf.names]
        exact hfresh
      refine ParserState.keeps_of_free (.entry name) ?_
        ((at_header name none _ n).mpr (Or.inl ⟨rfl, rfl⟩)) ?_
      · rintro m ⟨e, he, -⟩
        rw [hnone] at he
        cases he
      · intro p m hp hm
        refine (at_header name none p m).mpr (Or.inr ⟨hp, ?_, hm⟩)
        rintro key rfl
        obtain ⟨f, hfield, -⟩ := hm
        rw [ParserState.field, hnone] at hfield
        cases hfield
  | @item deep text name key σ' hcurrent hkey happend =>
    have hleaves : r.Leaves fmt (.item deep text) := by
      rcases hkey with hlist | ⟨-, hdeep, -⟩
      · left
        rw [← hf.list, hlist, Option.isSome_some]
      · exact Or.inr hdeep
    refine ⟨fun _ => hleaves, fun _ => ?_⟩
    obtain ⟨line, items, rfl, hold⟩ := append_cases happend
    have hat := ParserState.at_assign name key (.list line (items ++ [(n, text)]))
      (hf.isSome_current hcurrent)
    constructor
    · rintro m ⟨p, hp⟩
      refine ⟨p, (hat p m).mpr ?_⟩
      by_cases hplace : p = .field name key
      · rw [if_pos hplace]
        subst hplace
        obtain ⟨f, hfield, hm⟩ := hp
        rcases hold with hlist | ⟨hnone, -, -⟩
        · rw [hlist, Option.some.injEq] at hfield
          subst hfield
          rcases hm with hline | ⟨item, hitem, hitemLine⟩
          · exact Or.inl hline
          · exact Or.inr ⟨item, List.mem_append_left _ hitem, hitemLine⟩
        · rw [hnone] at hfield
          cases hfield
      · rw [if_neg hplace]
        exact hp
    · refine ⟨.field name key, (hat _ n).mpr ?_⟩
      rw [if_pos rfl]
      exact Or.inr ⟨(n, text), by simp, rfl⟩
  | dropped hcurrent hlist =>
    constructor
    · intro hkeeps
      -- no place bears the number of a line that is passed over
      obtain ⟨p, hp⟩ := hkeeps.2
      exact absurd (hn.lt p n hp) (lt_irrefl n)
    · intro hleaves
      rcases hleaves with hopen | hdeep
      · rw [← hf.list, hlist] at hopen
        cases hopen
      · cases hdeep
  | @list name key value hcurrent hvalue hmem =>
    refine keeps_pair hf hn hcurrent (.list n []) ?_ (some key)
    intro m
    simp [Field.HasLine, eq_comm]
  | @scalar name key value hcurrent hvalue =>
    exact keeps_pair hf hn hcurrent (.scalar n _) (fun m => eq_comm) none

/-! ## Lists as they are written -/

variable (fmt) in
/-- The notes about what is written agree with those about the entries and keys. -/
structure Noted (r : Notes) : Prop where
  written : ∀ name key, r.written name key ≠ none → name ∈ r.names
  entry : ∀ name, r.entry = some name → name ∈ r.names
  keys : ∀ name key, r.entry = some name → r.written name key ≠ none → key ∈ r.keys
  listed : ∀ name key, r.entry = some name → key ∈ r.keys → key ∈ fmt.listKeys →
    r.written name key ≠ none
  last : ∀ key value, r.lastPair = some (key, value) → key ∈ r.keys

theorem noted_start : Noted fmt {} where
  written name key h := absurd rfl h
  entry name h := by cases h
  keys name key h := by cases h
  listed name key h := by cases h
  last key value h := by cases h

theorem adding_of_ne {name key x k : String} {items : List String} (hentry : r.entry = some name)
    (h : x ≠ name ∨ k ≠ key) : r.adding fmt key items x k = r.written x k := by
  unfold Notes.adding
  apply if_neg
  rintro ⟨hx, hk, -⟩
  rw [hentry] at hx
  rcases h with h | h
  · exact h (Option.some.inj hx).symm
  · exact h hk

theorem adding_self {name key : String} {items : List String} (hentry : r.entry = some name)
    (hmem : key ∈ fmt.listKeys) : r.adding fmt key items name key =
      some ((r.written name key).getD [] ++ items) :=
  if_pos ⟨hentry, rfl, hmem⟩

theorem adding_of_not_mem {key : String} (items : List String) (hmem : key ∉ fmt.listKeys)
    (r : Notes) : r.adding fmt key items = r.written := by
  funext x k
  exact if_neg (fun h => hmem h.2.2)

theorem adding_ne_none {key x k : String} {items : List String}
    (h : r.adding fmt key items x k ≠ none) :
    r.written x k ≠ none ∨ r.entry = some x ∧ k = key ∧ key ∈ fmt.listKeys := by
  unfold Notes.adding at h
  split_ifs at h with hadd
  · exact Or.inr hadd
  · exact Or.inl h

/-- What is written stays. -/
theorem adding_ne_none_of_written {x k : String} (key : String) (items : List String)
    (h : r.written x k ≠ none) : r.adding fmt key items x k ≠ none := by
  unfold Notes.adding
  split_ifs with hadd
  · exact Option.some_ne_none _
  · exact h

theorem noted_step {s : LineShape} (h : Noted fmt r) (hl : r.Leaves fmt s) :
    Noted fmt (r.note inline fmt s) := by
  cases s with
  | opening => exact ⟨h.written, h.entry, h.keys, h.listed, h.last⟩
  | header name =>
    constructor
    · exact fun x k hw => List.mem_cons_of_mem _ (h.written x k hw)
    · intro x hx
      rw [← Option.some.inj hx]
      exact List.mem_cons_self
    · intro x k hx hw
      -- the name is new, so nothing is written for it yet
      exfalso
      apply hl
      rw [Option.some.inj hx]
      exact h.written x k hw
    · intro x k hx hk
      cases hk
    · intro k v hlast
      cases hlast
  | item deep text =>
    -- an item is written under the last key, which is one of the keys of its entry
    have hwritten : ∀ x k, (r.note inline fmt (.item deep text)).written x k ≠ none →
        r.written x k ≠ none ∨ r.entry = some x ∧ k ∈ r.keys := by
      intro x k hw
      cases hlast : r.lastPair with
      | none =>
        left
        simpa only [Notes.note, hlast] using hw
      | some p =>
        obtain ⟨key, value⟩ := p
        have hw' : r.adding fmt key [text] x k ≠ none := by
          simpa only [Notes.note, hlast] using hw
        rcases adding_ne_none hw' with hold | ⟨hx, rfl, -⟩
        · exact Or.inl hold
        · exact Or.inr ⟨hx, h.last k value hlast⟩
    constructor
    · intro x k hw
      rcases hwritten x k hw with hold | ⟨hx, -⟩
      · exact h.written x k hold
      · exact h.entry x hx
    · exact h.entry
    · intro x k hx hw
      rcases hwritten x k hw with hold | ⟨-, hk⟩
      · exact h.keys x k hx hold
      · exact hk
    · intro x k hx hk hmem
      have hold := h.listed x k hx hk hmem
      show (match r.lastPair with
        | some (key, _) => r.adding fmt key [text]
        | none => r.written) x k ≠ none
      cases r.lastPair with
      | none => exact hold
      | some p => exact adding_ne_none_of_written p.1 [text] hold
    · exact h.last
  | pair key value =>
    constructor
    · intro x k hw
      rcases adding_ne_none hw with hold | ⟨hx, -⟩
      · exact h.written x k hold
      · exact h.entry x hx
    · exact h.entry
    · intro x k hx hw
      rcases adding_ne_none hw with hold | ⟨-, rfl, -⟩
      · exact List.mem_cons_of_mem _ (h.keys x k hx hold)
      · exact List.mem_cons_self
    · intro x k hx hk hmem
      have hentry : r.entry = some x := hx
      show r.adding fmt key _ x k ≠ none
      rcases List.mem_cons.mp hk with rfl | hk
      · rw [adding_self hentry hmem]
        exact Option.some_ne_none _
      · exact adding_ne_none_of_written key _ (h.listed x k hentry hk hmem)
    · intro k v hlast
      rw [← (Prod.mk.inj (Option.some.inj hlast)).1]
      exact List.mem_cons_self
  | other => exact h

/-- Every restriction is stored with the items that are written. -/
def Exact (σ : ParserState) (r : Notes) : Prop :=
  ∀ name key items, r.written name key = some items →
    ∃ line its, σ.field name key = some (.list line its) ∧ its.map Prod.snd = items

/-- A restriction is stored as a scalar, or with more items than are written. -/
def Off (σ : ParserState) (r : Notes) : Prop :=
  ∃ name key items f, r.written name key = some items ∧ σ.field name key = some f ∧
    ((∃ line v, f = .scalar line v) ∨ ∃ line its, f = .list line its ∧ items.length < its.length)

theorem not_exact_of_off (h : Off σ r) : ¬ Exact σ r := by
  intro he
  obtain ⟨name, key, items, f, hwritten, hfield, hf⟩ := h
  obtain ⟨line, its, hlist, hits⟩ := he name key items hwritten
  rw [hlist, Option.some.injEq] at hfield
  subst hfield
  rcases hf with ⟨l, v, hscalar⟩ | ⟨l, its', heq, hlt⟩
  · cases hscalar
  · obtain ⟨-, rfl⟩ := Field.list.inj heq
    rw [← hits, List.length_map] at hlt
    exact lt_irrefl _ hlt

/-- A value beside the last key rules out that a list is open. -/
theorem strip_ne_of_openList_none {key value : String} (hlast : r.lastPair = some (key, value))
    (hmem : key ∈ fmt.listKeys) (hopen : r.openList fmt = none) : strip value ≠ "" := by
  intro hvalue
  unfold Notes.openList at hopen
  rw [hlast] at hopen
  simp [hmem, hvalue] at hopen

/-- The open list is the one of the last key. -/
theorem lastPair_of_openList {key : String} (hopen : r.openList fmt = some key) :
    ∃ value, r.lastPair = some (key, value) ∧ key ∈ fmt.listKeys := by
  unfold Notes.openList at hopen
  cases hlast : r.lastPair with
  | none =>
    rw [hlast] at hopen
    cases hopen
  | some p =>
    rw [hlast, Option.filter_some] at hopen
    split_ifs at hopen with hp
    · obtain rfl := Option.some.inj hopen
      exact ⟨p.2, rfl, (of_decide_eq_true hp).1⟩
    · cases hopen

/-- What an item adds to the notes, when no list is open, it adds under a key with a value. -/
theorem written_item (hf : Mirrors fmt σ r) (hnoted : Noted fmt r) {name : String}
    (hentry : r.entry = some name) (hopen : r.openList fmt = none) (deep : Bool)
    (text x k : String) :
    (r.note inline fmt (.item deep text)).written x k = r.written x k ∨
      (∃ line v, σ.field x k = some (.scalar line v)) ∧
        ∃ old, r.written x k = some old ∧
          (r.note inline fmt (.item deep text)).written x k = some (old ++ [text]) := by
  cases hlast : r.lastPair with
  | none =>
    left
    simp only [Notes.note, hlast]
  | some p =>
    obtain ⟨key, value⟩ := p
    have hwritten : (r.note inline fmt (.item deep text)).written = r.adding fmt key [text] := by
      simp only [Notes.note, hlast]
    rw [hwritten]
    by_cases hmem : key ∈ fmt.listKeys
    · by_cases hxk : x = name ∧ k = key
      · obtain ⟨rfl, rfl⟩ := hxk
        -- a key of a list that is not open has a value beside it
        have hvalue := strip_ne_of_openList_none hlast hmem hopen
        obtain ⟨old, hold⟩ := Option.ne_none_iff_exists'.mp
          (hnoted.listed x k hentry (hnoted.last k value hlast) hmem)
        refine Or.inr ⟨hf.beside x k value hentry hlast hvalue, old, hold, ?_⟩
        rw [adding_self hentry hmem, hold, Option.getD_some]
      · left
        apply adding_of_ne hentry
        rw [not_and_or] at hxk
        exact hxk
    · left
      rw [adding_of_not_mem _ hmem]

/-- An item that leaves nothing is passed over. -/
theorem not_leaves_of_dropped (hf : Mirrors fmt σ r) {text : String}
    (hlist : σ.currentListKey = none) : ¬ r.Leaves fmt (.item false text) := by
  rintro (hopen | hdeep)
  · rw [← hf.list, hlist] at hopen
    cases hopen
  · cases hdeep

theorem exact_step {s : LineShape} (hf : Mirrors fmt σ r) (hnoted : Noted fmt r) (he : Exact σ r)
    (hl : r.Leaves fmt s) (hp : r.Plain fmt s) (h : Reads py fmt σ n s σ') :
    Exact σ' (r.note inline fmt s) := by
  cases h with
  | opening => exact he
  | header name hopened =>
    intro x k items hwritten
    have hx : x ≠ name := by
      rintro rfl
      exact hl (hnoted.written x k (by rw [show r.written x k = some items from hwritten]; simp))
    obtain ⟨line, its, hfield, hits⟩ := he x k items hwritten
    refine ⟨line, its, ?_, hits⟩
    show (Function.update σ.registry name _ x).bind _ = _
    rw [Function.update_of_ne hx]
    exact hfield
  | @item deep text name key σ' hcurrent hkey happend =>
    have hname := hf.isSome_current hcurrent
    have hentry : r.entry = some name := hf.entry ▸ hcurrent
    obtain ⟨line, its, rfl, hold⟩ := append_cases happend
    intro x k items hwritten
    rw [ParserState.field_assign name key _ hname]
    rcases hkey with hlist | ⟨hlist, hdeep, hloose⟩
    · -- the item is written under the key of the open list
      rw [hf.list] at hlist
      obtain ⟨value, hlast, hmem⟩ := lastPair_of_openList hlist
      have hadding : (r.note inline fmt (.item deep text)).written = r.adding fmt key [text] := by
        simp only [Notes.note, hlast]
      rw [hadding] at hwritten
      by_cases hxk : x = name ∧ k = key
      · obtain ⟨rfl, rfl⟩ := hxk
        rw [if_pos ⟨rfl, rfl⟩]
        rw [adding_self hentry hmem] at hwritten
        obtain ⟨old, hold'⟩ := Option.ne_none_iff_exists'.mp
          (hnoted.listed x k hentry (hnoted.last k value hlast) hmem)
        obtain ⟨l, its', hfield, hits⟩ := he x k old hold'
        rcases hold with hlist' | ⟨hnone, -, -⟩
        · rw [hlist', Option.some.injEq] at hfield
          obtain ⟨rfl, rfl⟩ := Field.list.inj hfield
          refine ⟨line, its ++ [(n, text)], rfl, ?_⟩
          rw [hold', Option.getD_some] at hwritten
          rw [List.map_append, hits]
          exact Option.some.inj hwritten
        · rw [hnone] at hfield
          cases hfield
      · rw [if_neg hxk]
        rw [adding_of_ne hentry (not_and_or.mp hxk)] at hwritten
        exact he x k items hwritten
    · -- the item goes to a list that is not written
      rw [hf.list] at hlist
      have hfresh : key ∉ r.keys := by
        rcases hp with hopen | hnotin
        · rw [hlist] at hopen
          cases hopen
        · exact hnotin key hloose
      have hsame : r.written x k = some items := by
        rcases written_item inline hf hnoted hentry hlist deep text x k with
          heq | ⟨⟨l, v, hscalar⟩, old, hold', -⟩
        · rw [← heq, hwritten]
        · obtain ⟨l', its', hfield, -⟩ := he x k old hold'
          rw [hscalar] at hfield
          cases hfield
      have hxk : ¬ (x = name ∧ k = key) := by
        rintro ⟨rfl, rfl⟩
        exact hfresh (hnoted.keys x k hentry (by rw [hsame]; simp))
      rw [if_neg hxk]
      exact he x k items hsame
  | dropped hcurrent hlist => exact absurd hl (not_leaves_of_dropped hf hlist)
  | @list name key value hcurrent hvalue hmem =>
    have hname := hf.isSome_current hcurrent
    have hentry : r.entry = some name := hf.entry ▸ hcurrent
    intro x k items hwritten
    show ∃ line its, (σ.assign name key (.list n [])).field x k = some (.list line its) ∧ _
    rw [ParserState.field_assign name key _ hname]
    have hadding : r.adding fmt key [] x k = some items := by
      simpa only [Notes.note, hvalue, if_true] using hwritten
    by_cases hxk : x = name ∧ k = key
    · obtain ⟨rfl, rfl⟩ := hxk
      have hnone : r.written x k = none := by
        by_contra hne
        exact hl.1 (hnoted.keys x k hentry hne)
      rw [adding_self hentry hmem, hnone] at hadding
      exact ⟨n, [], if_pos ⟨rfl, rfl⟩, Option.some.inj hadding⟩
    · rw [adding_of_ne hentry (not_and_or.mp hxk)] at hadding
      rw [if_neg hxk]
      exact he x k items hadding
  | @scalar name key value hcurrent hvalue =>
    have hname := hf.isSome_current hcurrent
    have hentry : r.entry = some name := hf.entry ▸ hcurrent
    have hmem : key ∉ fmt.listKeys := fun hmem => hvalue (hp hmem)
    intro x k items hwritten
    show ∃ line its, (σ.assign name key (.scalar n (parseScalar py value))).field x k =
      some (.list line its) ∧ _
    rw [ParserState.field_assign name key _ hname]
    have hsame : r.written x k = some items := by
      rw [← adding_of_not_mem _ hmem r]
      exact hwritten
    have hxk : ¬ (x = name ∧ k = key) := by
      rintro ⟨rfl, rfl⟩
      exact hl.1 (hnoted.keys x k hentry (by rw [hsame]; simp))
    rw [if_neg hxk]
    exact he x k items hsame

/-- A line that is not plain stores another list than the one that is written. -/
theorem off_of_not_plain {s : LineShape}
    (hloose : ∀ key, fmt.looseKey = some key → key ∈ fmt.listKeys) (hf : Mirrors fmt σ r)
    (hnoted : Noted fmt r) (he : Exact σ r) (hl : r.Leaves fmt s)
    (hp : ¬ r.Plain fmt s) (h : Reads py fmt σ n s σ') : Off σ' (r.note inline fmt s) := by
  cases h with
  | opening => exact absurd trivial hp
  | header name hopened => exact absurd trivial hp
  | @item deep text name key σ' hcurrent hkey happend =>
    have hname := hf.isSome_current hcurrent
    have hentry : r.entry = some name := hf.entry ▸ hcurrent
    obtain ⟨line, its, rfl, hold⟩ := append_cases happend
    rw [Notes.Plain, not_or] at hp
    have hopen : r.openList fmt = none := by simpa using hp.1
    obtain ⟨key', hkey', hmem'⟩ : ∃ key', fmt.looseKey = some key' ∧ key' ∈ r.keys := by
      simpa using hp.2
    obtain rfl : key' = key := by
      rcases hkey with hlist | ⟨-, -, hkey⟩
      · rw [hf.list, hopen] at hlist
        cases hlist
      · exact Option.some.inj (hkey'.symm.trans hkey)
    -- the loose key was written before: its list gets an item that was not written for it
    obtain ⟨old, hwritten⟩ := Option.ne_none_iff_exists'.mp
      (hnoted.listed name key' hentry hmem' (hloose key' hkey'))
    obtain ⟨l, its', hfield, hits⟩ := he name key' old hwritten
    rcases hold with hlist | ⟨hnone, -, -⟩
    · rw [hlist, Option.some.injEq] at hfield
      obtain ⟨rfl, rfl⟩ := Field.list.inj hfield
      refine ⟨name, key', old, _, ?_, ?_, Or.inr ⟨line, its ++ [(n, text)], rfl, ?_⟩⟩
      · rcases written_item inline hf hnoted hentry hopen deep text name key' with
          heq | ⟨⟨l, v, hscalar⟩, -⟩
        · rw [heq, hwritten]
        · rw [hlist] at hscalar
          cases hscalar
      · rw [ParserState.field_assign name key' _ hname, if_pos ⟨rfl, rfl⟩]
      · rw [← hits, List.length_map, List.length_append]
        exact Nat.lt_succ_self _
    · rw [hnone] at hfield
      cases hfield
  | dropped hcurrent hlist => exact absurd hl (not_leaves_of_dropped hf hlist)
  | list hcurrent hvalue hmem => exact absurd (fun _ => hvalue) hp
  | @scalar name key value hcurrent hvalue =>
    have hname := hf.isSome_current hcurrent
    have hentry : r.entry = some name := hf.entry ▸ hcurrent
    -- a restriction key with a value beside it is stored as a scalar
    have hmem : key ∈ fmt.listKeys := by
      by_contra hmem
      exact hp (fun hmem' => absurd hmem' hmem)
    refine ⟨name, key, _, .scalar n (parseScalar py value), adding_self hentry hmem, ?_,
      Or.inl ⟨n, _, rfl⟩⟩
    show (σ.assign name key _).field name key = _
    rw [ParserState.field_assign name key _ hname, if_pos ⟨rfl, rfl⟩]

/-- A list that is off stays off. -/
theorem off_step {s : LineShape} (hf : Mirrors fmt σ r) (hnoted : Noted fmt r) (ho : Off σ r)
    (hl : r.Leaves fmt s) (h : Reads py fmt σ n s σ') : Off σ' (r.note inline fmt s) := by
  obtain ⟨x, k, items, f, hwritten, hfield, hbad⟩ := ho
  cases h with
  | opening => exact ⟨x, k, items, f, hwritten, hfield, hbad⟩
  | header name hopened =>
    have hx : x ≠ name := by
      rintro rfl
      exact hl (hnoted.written x k (by rw [hwritten]; simp))
    refine ⟨x, k, items, f, hwritten, ?_, hbad⟩
    show (Function.update σ.registry name _ x).bind _ = _
    rw [Function.update_of_ne hx]
    exact hfield
  | @item deep text name key σ' hcurrent hkey happend =>
    have hname := hf.isSome_current hcurrent
    have hentry : r.entry = some name := hf.entry ▸ hcurrent
    obtain ⟨line, its, rfl, hold⟩ := append_cases happend
    have hnew := ParserState.field_assign name key (.list line (its ++ [(n, text)])) hname x k
    by_cases hxk : x = name ∧ k = key
    · -- the item is added to this list
      obtain ⟨rfl, rfl⟩ := hxk
      rw [if_pos ⟨rfl, rfl⟩] at hnew
      rcases hold with hlist | ⟨hnone, -, -⟩
      · rw [hlist, Option.some.injEq] at hfield
        subst hfield
        rcases hbad with ⟨l, v, hscalar⟩ | ⟨l, its', heq, hlt⟩
        · cases hscalar
        · obtain ⟨rfl, rfl⟩ := Field.list.inj heq
          obtain ⟨items', hwritten', hlength⟩ : ∃ items',
              (r.note inline fmt (.item deep text)).written x k = some items' ∧
                items'.length ≤ items.length + 1 := by
            cases hlast : r.lastPair with
            | none => exact ⟨items, by simp only [Notes.note, hlast, hwritten], Nat.le_succ _⟩
            | some p =>
              by_cases hadd : r.entry = some x ∧ k = p.1 ∧ p.1 ∈ fmt.listKeys
              · refine ⟨items ++ [text], ?_, by simp⟩
                simp only [Notes.note, hlast, Notes.adding, if_pos hadd, hwritten, Option.getD_some]
              · refine ⟨items, ?_, Nat.le_succ _⟩
                simp only [Notes.note, hlast, Notes.adding, if_neg hadd, hwritten]
          refine ⟨x, k, items', _, hwritten', hnew, Or.inr ⟨line, its ++ [(n, text)], rfl, ?_⟩⟩
          rw [List.length_append, List.length_singleton]
          omega
      · rw [hnone] at hfield
        cases hfield
    · rw [if_neg hxk] at hnew
      rw [hfield] at hnew
      cases hopen : r.openList fmt with
      | some key' =>
        -- the item is written under the key whose list it is added to
        obtain rfl : key' = key := by
          rcases hkey with hlist | ⟨hlist, -, -⟩
          · rw [hf.list, hopen] at hlist
            exact Option.some.inj hlist
          · rw [hf.list, hopen] at hlist
            cases hlist
        obtain ⟨value, hlast, -⟩ := lastPair_of_openList hopen
        refine ⟨x, k, items, f, ?_, hnew, hbad⟩
        rw [← hwritten]
        show (match r.lastPair with
          | some (key, _) => r.adding fmt key [text]
          | none => r.written) x k = _
        rw [hlast]
        exact adding_of_ne hentry (not_and_or.mp hxk)
      | none =>
        rcases written_item inline hf hnoted hentry hopen deep text x k with
          heq | ⟨⟨l, v, hscalar⟩, old, -, hnewItems⟩
        · exact ⟨x, k, items, f, heq.trans hwritten, hnew, hbad⟩
        · rw [hscalar, Option.some.injEq] at hfield
          exact ⟨x, k, _, f, hnewItems, hnew, Or.inl ⟨l, v, hfield.symm⟩⟩
  | dropped hcurrent hlist => exact absurd hl (not_leaves_of_dropped hf hlist)
  | @list name key value hcurrent hvalue hmem =>
    have hentry : r.entry = some name := hf.entry ▸ hcurrent
    have hxk : ¬ (x = name ∧ k = key) := by
      rintro ⟨rfl, rfl⟩
      exact hl.1 (hnoted.keys x k hentry (by rw [hwritten]; simp))
    refine ⟨x, k, items, f, (adding_of_ne hentry (not_and_or.mp hxk)).trans hwritten, ?_, hbad⟩
    show (σ.assign name key _).field x k = _
    rw [ParserState.field_assign name key _ (hf.isSome_current hcurrent), if_neg hxk, hfield]
  | @scalar name key value hcurrent hvalue =>
    have hentry : r.entry = some name := hf.entry ▸ hcurrent
    have hxk : ¬ (x = name ∧ k = key) := by
      rintro ⟨rfl, rfl⟩
      exact hl.1 (hnoted.keys x k hentry (by rw [hwritten]; simp))
    refine ⟨x, k, items, f, (adding_of_ne hentry (not_and_or.mp hxk)).trans hwritten, ?_, hbad⟩
    show (σ.assign name key _).field x k = _
    rw [ParserState.field_assign name key _ (hf.isSome_current hcurrent), if_neg hxk, hfield]

/-! ## Scalars -/

theorem parseScalar_ne_list (value : String) (items : List String) :
    parseScalar py value ≠ .list items := by
  unfold parseScalar
  dsimp only
  split_ifs with h1 h2 h3 h4
  · exact Scalar.noConfusion
  · exact Scalar.noConfusion
  · exact Scalar.noConfusion
  · cases py.floatOfStr (strip value) with
    | none => exact Scalar.noConfusion
    | some q => exact Scalar.noConfusion
  · cases py.intOfStr (strip value) with
    | none => exact Scalar.noConfusion
    | some i => exact Scalar.noConfusion

/-- No value beside a key is a list. -/
def PlainScalars (σ : ParserState) : Prop :=
  ∀ name key line v, σ.field name key = some (.scalar line v) → ∀ items, v ≠ .list items

theorem plainScalars_step {s : LineShape} (hf : Mirrors fmt σ r) (hp : PlainScalars σ)
    (h : Reads py fmt σ n s σ') : PlainScalars σ' := by
  cases h with
  | opening => exact hp
  | header name hopened =>
    intro x k line v hfield
    have hfield' : (Function.update σ.registry name (some { line := n }) x).bind
        (fun e => e.fields k) = some (.scalar line v) := hfield
    by_cases hx : x = name
    · subst hx
      rw [Function.update_self] at hfield'
      cases hfield'
    · rw [Function.update_of_ne hx] at hfield'
      exact hp x k line v hfield'
  | @item deep text name key σ' hcurrent hkey happend =>
    obtain ⟨line', items', rfl, -⟩ := append_cases happend
    intro x k line v hfield
    rw [ParserState.field_assign name key _ (hf.isSome_current hcurrent)] at hfield
    split_ifs at hfield with hxk
    · cases hfield
    · exact hp x k line v hfield
  | dropped hcurrent hlist => exact hp
  | @list name key value hcurrent hvalue hmem =>
    intro x k line v hfield
    have hfield' : (σ.assign name key (.list n [])).field x k = some (.scalar line v) := hfield
    rw [ParserState.field_assign name key _ (hf.isSome_current hcurrent)] at hfield'
    split_ifs at hfield' with hxk
    · cases hfield'
    · exact hp x k line v hfield'
  | @scalar name key value hcurrent hvalue =>
    intro x k line v hfield
    have hfield' : (σ.assign name key (.scalar n (parseScalar py value))).field x k =
      some (.scalar line v) := hfield
    rw [ParserState.field_assign name key _ (hf.isSome_current hcurrent)] at hfield'
    split_ifs at hfield' with hxk
    · obtain ⟨-, rfl⟩ := Field.scalar.inj (Option.some.inj hfield')
      exact parseScalar_ne_list value
    · exact hp x k line v hfield'

/-! ## All lines -/

variable (py fmt) in
/-- The lines that the parser goes through. -/
inductive Run : ParserState → List (String × ℕ) → ParserState → Prop
  | done (σ : ParserState) : Run σ [] σ
  | skip {σ σ' : ParserState} {raw : String} {n : ℕ} {lines : List (String × ℕ)} :
      isSignificant raw = false → Run σ lines σ' → Run σ ((raw, n) :: lines) σ'
  | line {σ σ₁ σ' : ParserState} {raw : String} {n : ℕ} {lines : List (String × ℕ)} :
      isSignificant raw = true → Reads py fmt σ n (shape fmt.sectionName raw) σ₁ →
      Run σ₁ lines σ' → Run σ ((raw, n) :: lines) σ'

theorem run_of_parseLines {lines : List (String × ℕ)} (h : parseLines py fmt σ lines = .ok σ') :
    Run py fmt σ lines σ' := by
  induction lines generalizing σ with
  | nil => exact Except.ok.inj h ▸ .done σ
  | cons l lines ih =>
    obtain ⟨raw, n⟩ := l
    unfold parseLines at h
    cases hsig : isSignificant raw with
    | false =>
      simp only [hsig, Bool.false_eq_true, if_false] at h
      exact .skip hsig (ih h)
    | true =>
      simp only [hsig, if_true] at h
      cases hline : parseLine py fmt σ n raw with
      | error e =>
        rw [hline] at h
        cases h
      | ok σ₁ =>
        rw [hline] at h
        exact .line hsig (reads_of_parseLine hline) (ih h)

theorem shapes_skip {raw : String} {lines : List (String × ℕ)} (h : isSignificant raw = false) :
    shapes fmt ((raw, n) :: lines) = shapes fmt lines := by
  simp [shapes, h]

theorem shapes_line {raw : String} {lines : List (String × ℕ)} (h : isSignificant raw = true) :
    shapes fmt ((raw, n) :: lines) = shape fmt.sectionName raw :: shapes fmt lines := by
  simp [shapes, h]

theorem plainScalars_run {lines : List (String × ℕ)} (h : Run py fmt σ lines σ')
    (hf : Mirrors fmt σ r) (hp : PlainScalars σ) : PlainScalars σ' := by
  induction h generalizing r with
  | done σ => exact hp
  | skip hsig hrun ih => exact ih hf hp
  | line hsig hreads hrun ih =>
    exact ih (mirrors_step (fun _ => []) hf hreads) (plainScalars_step hf hp hreads)

/-- What has an effect at the end had one before, or is one of the lines. -/
theorem hasLine_run {lines : List (String × ℕ)} (h : Run py fmt σ lines σ') {m : ℕ}
    (hf : Mirrors fmt σ r) (hm : σ'.HasLine m) : σ.HasLine m ∨ ∃ l ∈ lines, l.2 = m := by
  induction h generalizing r with
  | done σ => exact Or.inl hm
  | skip hsig hrun ih =>
    rcases ih hf hm with hold | ⟨l, hl, hlm⟩
    · exact Or.inl hold
    · exact Or.inr ⟨l, List.mem_cons_of_mem _ hl, hlm⟩
  | @line σ σ₁ σ' raw n lines hsig hreads hrun ih =>
    rcases ih (mirrors_step (fun _ => []) hf hreads) hm with hold | ⟨l, hl, hlm⟩
    · rcases hasLine_step hf hreads hold with hold' | rfl
      · exact Or.inl hold'
      · exact Or.inr ⟨(raw, m), List.mem_cons_self, rfl⟩
    · exact Or.inr ⟨l, List.mem_cons_of_mem _ hl, hlm⟩

theorem shows_run {lines : List (String × ℕ)} (h : Run py fmt σ lines σ') {m : ℕ} {mark : Mark}
    (hf : Mirrors fmt σ r) (hm : σ'.Shows m mark) : σ.Shows m mark ∨
      ∃ l ∈ lines, l.2 = m ∧ (shape fmt.sectionName l.1).mark = mark := by
  induction h generalizing r with
  | done σ => exact Or.inl hm
  | skip hsig hrun ih =>
    rcases ih hf hm with hold | ⟨l, hl, hlm⟩
    · exact Or.inl hold
    · exact Or.inr ⟨l, List.mem_cons_of_mem _ hl, hlm⟩
  | @line σ σ₁ σ' raw n lines hsig hreads hrun ih =>
    rcases ih (mirrors_step (fun _ => []) hf hreads) hm with hold | ⟨l, hl, hlm⟩
    · rcases shows_step hf hreads hold with hold' | ⟨rfl, hmark⟩
      · exact Or.inl hold'
      · exact Or.inr ⟨(raw, m), List.mem_cons_self, rfl, hmark⟩
    · exact Or.inr ⟨l, List.mem_cons_of_mem _ hl, hlm⟩

/-- **A line shows what it says** exactly when it has an effect and says what the parser takes it
for. -/
theorem shows_iff {lines : List (String × ℕ)} (h : Run py fmt {} lines σ')
    (hunique : ∀ l ∈ lines, ∀ l' ∈ lines, l'.2 = l.2 → l' = l) {l : String × ℕ} (hl : l ∈ lines) :
    σ'.Shows l.2 (shape fmt.sectionName l.1).read.mark ↔
      σ'.HasLine l.2 ∧ (shape fmt.sectionName l.1).read = shape fmt.sectionName l.1 := by
  -- a mark of a line is the one of its shape
  have hmark : ∀ mark, σ'.Shows l.2 mark → (shape fmt.sectionName l.1).mark = mark := by
    intro mark hm
    rcases shows_run h mirrors_start hm with hold | ⟨l', hl', hline, hmark⟩
    · obtain ⟨place, hat⟩ := hasLine_of_shows hold
      cases place with
      | opening => cases hat
      | entry name =>
        obtain ⟨e, he, -⟩ := hat
        cases he
      | field name key =>
        obtain ⟨f, hf, -⟩ := hat
        cases hf
    · rw [hunique l hl l' hl' hline] at hmark
      exact hmark
  constructor
  · intro hshows
    exact ⟨hasLine_of_shows hshows, read_of_mark (hmark _ hshows).symm⟩
  · rintro ⟨hline, hread⟩
    obtain ⟨mark, hshows⟩ := shows_of_hasLine hline
    rw [hread, hmark mark hshows]
    exact hshows

theorem numbered_mono {bound : ℕ} (h : σ.Numbered bound) (hle : bound ≤ n) : σ.Numbered n :=
  ⟨fun p m hp => (h.lt p m hp).trans_le hle, h.unique⟩

/-- **Every line has an effect** exactly when every line leaves something and loses nothing. -/
theorem run_leaves {lines : List (String × ℕ)} (h : Run py fmt σ lines σ') {bound : ℕ}
    (hf : Mirrors fmt σ r) (hn : σ.Numbered bound) (hbound : ∀ l ∈ lines, bound ≤ l.2)
    (hsorted : lines.Pairwise (fun a b => a.2 < b.2)) :
    ((∀ m, σ.HasLine m → σ'.HasLine m) ∧
        ∀ l ∈ lines, isSignificant l.1 = true → σ'.HasLine l.2) ↔
      r.All inline fmt (fun r => r.Leaves fmt) (shapes fmt lines) := by
  induction h generalizing r bound with
  | done σ =>
    refine ⟨fun _ => trivial, fun _ => ⟨fun m hm => hm, ?_⟩⟩
    intro l hl
    cases hl
  | @skip σ σ' raw n lines hsig hrun ih =>
    rw [shapes_skip hsig, ← ih hf hn (fun l hl => hbound l (List.mem_cons_of_mem _ hl))
      (List.pairwise_cons.mp hsorted).2]
    simp [hsig]
  | @line σ σ₁ σ' raw n lines hsig hreads hrun ih =>
    have hnum := numbered_mono hn (hbound (raw, n) List.mem_cons_self)
    have hlater : ∀ l ∈ lines, n < l.2 := (List.pairwise_cons.mp hsorted).1
    have hmirrors := mirrors_step inline hf hreads
    rw [shapes_line hsig, Notes.All, ← keeps_iff hf hnum hreads,
      ← ih hmirrors (numbered_step hf hnum hreads) hlater (List.pairwise_cons.mp hsorted).2]
    constructor
    · rintro ⟨hkeep, hlines⟩
      have hthis : σ'.HasLine n := hlines (raw, n) List.mem_cons_self hsig
      -- what is lost now is lost for good
      have hback : ∀ m, m ≤ n → σ'.HasLine m → σ₁.HasLine m := by
        intro m hle hm
        rcases hasLine_run hrun hmirrors hm with hold | ⟨l, hl, rfl⟩
        · exact hold
        · exact absurd (hlater l hl) (by omega)
      refine ⟨⟨fun m hm => ?_, hback n le_rfl hthis⟩, fun m hm => ?_, fun l hl =>
        hlines l (List.mem_cons_of_mem _ hl)⟩
      · obtain ⟨p, hp⟩ := hm
        exact hback m (hnum.lt p m hp).le (hkeep m ⟨p, hp⟩)
      · rcases hasLine_step hf hreads hm with hold | rfl
        · exact hkeep m hold
        · exact hthis
    · rintro ⟨⟨hkeep, hthis⟩, hrest, hlines⟩
      refine ⟨fun m hm => hrest m (hkeep m hm), ?_⟩
      intro l hl hlsig
      rcases List.mem_cons.mp hl with rfl | hl
      · exact hrest n hthis
      · exact hlines l hl hlsig

/-- When every line leaves something, lists that are off stay off. -/
theorem run_off {lines : List (String × ℕ)} (h : Run py fmt σ lines σ') (hf : Mirrors fmt σ r)
    (hnoted : Noted fmt r) (hl : r.All inline fmt (fun r => r.Leaves fmt) (shapes fmt lines))
    (ho : Off σ r) : Off σ' ((shapes fmt lines).foldl (Notes.note inline fmt) r) := by
  induction h generalizing r with
  | done σ => exact ho
  | skip hsig hrun ih =>
    rw [shapes_skip hsig] at hl ⊢
    exact ih hf hnoted hl ho
  | line hsig hreads hrun ih =>
    rw [shapes_line hsig] at hl ⊢
    exact ih (mirrors_step inline hf hreads) (noted_step inline hnoted hl.1) hl.2
      (off_step inline hf hnoted ho hl.1 hreads)

/-- **Restrictions are stored as they are written** exactly when every line is plain. -/
theorem run_exact (hloose : ∀ key, fmt.looseKey = some key → key ∈ fmt.listKeys)
    {lines : List (String × ℕ)} (h : Run py fmt σ lines σ') (hf : Mirrors fmt σ r)
    (hnoted : Noted fmt r) (hl : r.All inline fmt (fun r => r.Leaves fmt) (shapes fmt lines))
    (he : Exact σ r) : Exact σ' ((shapes fmt lines).foldl (Notes.note inline fmt) r) ↔
      r.All inline fmt (fun r => r.Plain fmt) (shapes fmt lines) := by
  induction h generalizing r with
  | done σ => exact iff_of_true he trivial
  | skip hsig hrun ih =>
    rw [shapes_skip hsig] at hl ⊢
    exact ih hf hnoted hl he
  | @line σ σ₁ σ' raw n lines hsig hreads hrun ih =>
    rw [shapes_line hsig] at hl ⊢
    have hmirrors := mirrors_step inline hf hreads
    have hnoted' := noted_step inline hnoted hl.1
    rw [List.foldl_cons, Notes.All]
    by_cases hp : r.Plain fmt (shape fmt.sectionName raw)
    · rw [ih hmirrors hnoted' hl.2 (exact_step inline hf hnoted he hl.1 hp hreads)]
      exact (and_iff_right hp).symm
    · refine iff_of_false (fun hexact => ?_) (fun hand => hp hand.1)
      exact not_exact_of_off (run_off inline hrun hmirrors hnoted' hl.2
        (off_of_not_plain inline hloose hf hnoted he hl.1 hp hreads)) hexact

end Steps

end ControlPlane

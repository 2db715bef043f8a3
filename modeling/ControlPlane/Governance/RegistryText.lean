/-
# The texts of the registries (`parse_registry` of `governance/registry`, `agents`, `tools`)

A registry file is read line by line.  How a line is read depends on its indentation; the
parser keeps the section, the current entry and the list that is open.  The three parsers
differ in the name of their section, in the keys that can hold a list, and in what becomes of
a deeply indented item outside of a list (`RegistryFormat`).

The model keeps beside each value the numbers of the lines that wrote it.  No branch looks at
them, and `ParserState.entries` leaves them out.
-/
import ControlPlane.Governance.Agents
import ControlPlane.Governance.Registry
import ControlPlane.Governance.Tools

namespace ControlPlane

/-! ## Lines -/

/-- What reading a file in text mode makes of its line ends. -/
def translateNewlines : List Char → List Char
  | '\r' :: '\n' :: l => '\n' :: translateNewlines l
  | '\r' :: l => '\n' :: translateNewlines l
  | c :: l => c :: translateNewlines l
  | [] => []

/-- The characters at which `str.splitlines` splits. -/
def isLineBreak (c : Char) : Bool :=
  [0x0A, 0x0B, 0x0C, 0x0D, 0x1C, 0x1D, 0x1E, 0x85, 0x2028, 0x2029].contains c.toNat

/-- `path.read_text().splitlines()`: the last line need not be ended. -/
def splitlines (text : String) : List String :=
  let parts := (translateNewlines text.toList).splitOnP isLineBreak
  (if parts.getLast? = some [] then parts.dropLast else parts).map String.ofList

/-- Neither blank nor a comment. -/
def isSignificant (raw : String) : Bool :=
  strip raw ≠ "" && (raw.toList.dropWhile isSpace).head? ≠ some '#'

/-- `line.partition(":")`, without the separator. -/
def partitionColon (line : String) : String × String :=
  (String.ofList (line.toList.takeWhile (· ≠ ':')),
    String.ofList ((line.toList.dropWhile (· ≠ ':')).drop 1))

/-- How a line is read. -/
inductive LineShape where
  | opening
  | header (name : String)
  | item (deep : Bool) (text : String)
  | pair (key value : String)
  | other
  deriving DecidableEq, Repr

/-- The shape of a line, by its indentation. -/
def shape (sectionName raw : String) : LineShape :=
  let indent := (raw.toList.takeWhile (· = ' ')).length
  let line := strip raw
  if indent = 0 ∧ line = sectionName ++ ":" then .opening
  else if indent = 2 ∧ endsWith line ":" then .header (String.ofList line.toList.dropLast)
  else if indent = 4 then
    if startsWith line "- " then .item false (dropChars 2 line)
    else .pair (partitionColon line).1 (partitionColon line).2
  else if indent = 6 ∧ startsWith line "- " then .item true (dropChars 2 line)
  else .other

/-! ## The parsers -/

/-- What the three parsers differ in. -/
structure RegistryFormat where
  /-- what the messages call the file -/
  file : String
  sectionName : String
  listKeys : List String
  /-- the list that takes a deeply indented item when no list is open -/
  looseKey : Option String

/-- The exceptions of `parse_registry`. -/
inductive RegistryError where
  | fileNotFoundError (text : String)
  | valueError (text : String)
  | attributeError (text : String)
  deriving DecidableEq, Repr

/-- A value of an entry, and the numbers of the lines that wrote it. -/
inductive Field where
  | scalar (line : ℕ) (value : Scalar)
  | list (line : ℕ) (items : List (ℕ × String))

/-- The value that the registry stores. -/
def Field.value : Field → Scalar
  | scalar _ v => v
  | list _ items => .list (items.map Prod.snd)

/-- An entry, and the number of its header. -/
structure MarkedEntry where
  line : ℕ
  fields : Dict Field := fun _ => none

/-- The variables of the loop. -/
structure ParserState where
  /-- the line that opened the section -/
  opened : Option ℕ := none
  registry : Dict MarkedEntry := fun _ => none
  current : Option String := none
  currentListKey : Option String := none

namespace ParserState

variable (σ : ParserState)

/-- The parsed registry. -/
def entries : Dict Entry :=
  fun name => (σ.registry name).map (fun e key => (e.fields key).map Field.value)

/-- `registry[name][key] = value`. -/
def assign (name key : String) (field : Field) : ParserState :=
  { σ with registry := Function.update σ.registry name ((σ.registry name).map (fun e =>
      { e with fields := Function.update e.fields key (some field) })) }

/-- The value of a key of an entry. -/
def field (name key : String) : Option Field := (σ.registry name).bind (fun e => e.fields key)

/-- `registry[name].setdefault(key, []).append(item)`. -/
def append (name key : String) (n : ℕ) (item : String) : Except RegistryError ParserState :=
  match σ.field name key with
  | none => .ok (σ.assign name key (.list n [(n, item)]))
  | some (.list line items) => .ok (σ.assign name key (.list line (items ++ [(n, item)])))
  | some (.scalar _ _) => .error (.attributeError "object has no attribute 'append'")

end ParserState

section Parser

variable (py : PyRuntime) (fmt : RegistryFormat)

/-- `parse_scalar`. -/
def parseScalar (value : String) : Scalar :=
  let normalized := strip value
  if normalized = "" then .str ""
  else if py.lower normalized ∈ ["true", "yes"] then .bool true
  else if py.lower normalized ∈ ["false", "no"] then .bool false
  else if '.' ∈ normalized.toList then
    (py.floatOfStr normalized).elim (.str normalized) .float
  else (py.intOfStr normalized).elim (.str normalized) .int

/-- The exception for a line that is none of the known ones. -/
def formatLine (raw : String) : RegistryError :=
  .valueError ("unsupported " ++ fmt.file ++ " format line: " ++ raw)

/-- The exception for an entry without a header. -/
def formatEntry (raw : String) : RegistryError :=
  .valueError ("unsupported " ++ fmt.file ++ " entry: " ++ raw)

/-- The body of the loop, for line number `n`. -/
def parseLine (σ : ParserState) (n : ℕ) (raw : String) : Except RegistryError ParserState :=
  match shape fmt.sectionName raw with
  | .opening => .ok { σ with opened := some n }
  | shape =>
    if σ.opened = none then .error (formatLine fmt raw)
    else match shape, σ.current with
      | .header name, _ => .ok
          { σ with
            current := some name
            currentListKey := none
            registry := Function.update σ.registry name (some { line := n }) }
      | .item deep text, some name => match σ.currentListKey with
        | some key => σ.append name key n text
        | none =>
          -- an item at the indentation of the keys is passed over
          if deep then match fmt.looseKey with
            | some key => σ.append name key n text
            | none => .error (formatEntry fmt raw)
          else .ok σ
      | .pair key value, some name =>
        if key = "" then .error (formatEntry fmt raw)
        else if strip value = "" then
          if key ∈ fmt.listKeys then
            .ok { σ.assign name key (.list n []) with currentListKey := some key }
          else .error (formatEntry fmt raw)
        else .ok
          { σ.assign name key (.scalar n (parseScalar py value)) with currentListKey := none }
      | _, _ => .error (formatLine fmt raw)

/-- The loop over the numbered lines. -/
def parseLines (σ : ParserState) : List (String × ℕ) → Except RegistryError ParserState
  | [] => .ok σ
  | (raw, n) :: lines => do
    let σ' ← if isSignificant raw then parseLine py fmt σ n raw else .ok σ
    parseLines σ' lines

/-- What a parser makes of a text. -/
def parseText (text : String) : Except RegistryError ParserState :=
  parseLines py fmt {} (splitlines text).zipIdx

/-- `parse_registry`, on the text of the file, if there is one. -/
def parseWith (path : String) (text : Option String) : Except RegistryError (Dict Entry) :=
  match text with
  | none => .error (.fileNotFoundError (fmt.file ++ " file does not exist: " ++ path))
  | some text => (parseText py fmt text).map ParserState.entries

end Parser

namespace Registry

/-- The format of `models.yaml`. -/
def format : RegistryFormat where
  file := "registry"
  sectionName := "models"
  listKeys := ["allowed_namespaces", "allowed_teams", "allowed_regions"]
  looseKey := some "allowed_namespaces"

/-- `parse_registry` of `governance/registry/evaluate.py`. -/
def parseRegistry (py : PyRuntime) (path : String) (text : Option String) :
    Except RegistryError (Dict Entry) := parseWith py format path text

end Registry

namespace Agents

/-- The format of `agents.yaml`. -/
def format : RegistryFormat where
  file := "agent registry"
  sectionName := "agents"
  listKeys := ["tools", "allowed_teams", "allowed_namespaces"]
  looseKey := none

/-- `parse_registry` of `governance/agents/evaluate.py`. -/
def parseRegistry (py : PyRuntime) (path : String) (text : Option String) :
    Except RegistryError (Dict Entry) := parseWith py format path text

end Agents

namespace Tools

/-- The format of `tools.yaml`. -/
def format : RegistryFormat where
  file := "tool registry"
  sectionName := "tools"
  listKeys := ["allowed_actions", "forbidden_actions", "allowed_teams", "allowed_namespaces"]
  looseKey := none

/-- `parse_registry` of `governance/tools/evaluate.py`. -/
def parseRegistry (py : PyRuntime) (path : String) (text : Option String) :
    Except RegistryError (Dict Entry) := parseWith py format path text

end Tools

end ControlPlane

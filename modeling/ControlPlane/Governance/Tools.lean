/-
# The tool engine (`governance/tools/evaluate.py`)

A request must name a registered tool, stay within its teams and namespaces, use an action
that the tool allows, and bring a permission for the actions that write.
-/
import ControlPlane.Request

namespace ControlPlane.Tools

variable (py : PyRuntime)

/-- What `evaluate_tool_policy` reads of a request. -/
structure ToolRequest where
  tool : String := ""
  team : String := "unknown"
  «namespace» : String := ""
  action : String := "invoke"
  writePermission : Bool := false
  deriving DecidableEq, Repr

/-- The result of `evaluate_tool_policy`. -/
structure ToolResult where
  knownTool : Bool
  forbidden : Bool
  reasons : List String
  riskTier : Option Scalar
  owner : Option Scalar
  mcpServer : Option Scalar
  deriving DecidableEq, Repr

/-- The items of a list in lower case; nothing when the value is not a list. -/
def lowered (entry : Entry) (key : String) : List String :=
  match entry key with
  | some (.list items) => items.map py.lower
  | _ => []

/-- `_action_allowed`: the reason against the action, if there is one. -/
def actionReasons (action : String) (entry : Entry) : List String :=
  let normalized := py.canonical action
  if normalized = "" then ["tool action is required"]
  else if normalized ∈ lowered py entry "forbidden_actions" then
    ["action " ++ action ++ " is forbidden for tool"]
  else if lowered py entry "allowed_actions" ≠ [] ∧
      normalized ∉ lowered py entry "allowed_actions" then
    ["action " ++ action ++ " is not in the tool allowlist"]
  else []

/-- The actions that write. -/
def writeActions : List String := ["write", "delete", "patch", "apply", "create", "update"]

/-- The reasons for which a tool's entry forbids a request. -/
def toolReasons (request : ToolRequest) (entry : Entry) : List String :=
  let toolName := strip request.tool
  let action := strip request.action
  reasonIf (entry.truthy "forbidden")
    ("tool " ++ toolName ++ " is forbidden in the tool registry")
  ++ reasonIf (entry.nonemptyListExcludes "allowed_teams" request.team)
    ("team " ++ request.team ++ " is not allowed to use tool " ++ toolName)
  ++ reasonIf (entry.nonemptyListExcludes "allowed_namespaces" request.namespace)
    ("namespace " ++ request.namespace ++ " is not allowed for tool " ++ toolName)
  ++ actionReasons py action entry
  ++ reasonIf (py.lower action ∈ writeActions ∧ request.writePermission = false)
    ("action " ++ action ++ " requires explicit write permission for tool " ++ toolName)

/-- As in the other engines the flag is whether there is a reason. -/
def evaluateToolPolicy (request : ToolRequest) (registry : Dict Entry) : ToolResult :=
  let toolName := strip request.tool
  if toolName = "" then
    { knownTool := false, forbidden := true, reasons := ["tool name is required"],
      riskTier := none, owner := none, mcpServer := none }
  else match registry toolName with
    | none =>
      { knownTool := false, forbidden := true,
        reasons := ["tool " ++ toolName ++ " is not registered"],
        riskTier := none, owner := none, mcpServer := none }
    | some entry =>
      { knownTool := true, forbidden := toolReasons py request entry ≠ [],
        reasons := toolReasons py request entry, riskTier := entry "risk_tier",
        owner := entry "owner", mcpServer := entry "mcp_server" }

end ControlPlane.Tools

/-
# The agent engine (`governance/agents/evaluate.py`)

A request that names an agent must name a registered one and stay within the
teams, namespaces, tools and model bound to it.
-/
import ControlPlane.Request

namespace ControlPlane.Agents

variable (py : PyRuntime)

/-- The result of `evaluate_agent_policy`. -/
structure AgentResult where
  knownAgent : Option Bool
  forbidden : Bool
  reasons : List String
  tools : List String
  deriving DecidableEq, Repr

/-- The tool is registered and forbidden. -/
def toolForbidden (toolRegistry : Dict Entry) (tool : String) : Bool :=
  (toolRegistry tool).elim false (fun entry => entry.truthy "forbidden")

/-- The model bound to an agent, trimmed. -/
def boundModel (entry : Entry) : String := strip (py.str (entry.getD "model" (.str "")))

/-- The reasons for which an agent's entry forbids a row with the requested tool. -/
def agentReasons (row : PipelineRow) (requestedTool : String) (entry : Entry)
    (toolRegistry : Dict Entry) (tools : List String) : List String :=
  let agentName := strip row.agent
  reasonIf (entry.truthy "forbidden")
    ("agent " ++ agentName ++ " is forbidden in the agent registry")
  ++ reasonIf (entry.nonemptyListExcludes "allowed_teams" row.team)
    ("team " ++ row.team ++ " is not allowed to use agent " ++ agentName)
  ++ reasonIf (entry.nonemptyListExcludes "allowed_namespaces" row.namespace)
    ("namespace " ++ row.namespace ++ " is not allowed for agent " ++ agentName)
  ++ reasonIf (requestedTool ≠ "" ∧ tools ≠ [] ∧ requestedTool ∉ tools)
    ("tool " ++ requestedTool ++ " is not bound to agent " ++ agentName)
  ++ reasonIf (requestedTool ≠ "" ∧ toolForbidden toolRegistry requestedTool)
    ("bound tool " ++ requestedTool ++ " is forbidden")
  ++ reasonIf (strip row.model ≠ "" ∧ boundModel py entry ≠ ""
      ∧ strip row.model ≠ boundModel py entry)
    ("model " ++ strip row.model ++ " does not match agent binding " ++ boundModel py entry)

/-- As in the registry engine the flag is whether there is a reason.  The row the
pipeline builds has no tool, so it passes the empty one. -/
def evaluateAgentPolicy (row : PipelineRow) (requestedTool : String) (registry : Dict Entry)
    (toolRegistry : Dict Entry) : Except PyError AgentResult :=
  if strip row.agent = "" then .ok
    { knownAgent := some false, forbidden := false, reasons := [], tools := [] }
  else match registry (strip row.agent) with
    | none => .ok
        { knownAgent := some false, forbidden := true,
          reasons := ["agent " ++ strip row.agent ++ " is not registered"], tools := [] }
    | some entry => do
      let tools ← (entry.getD "tools" (.list [])).toList
      let reasons := agentReasons py row (strip requestedTool) entry toolRegistry tools
      return { knownAgent := some true, forbidden := reasons ≠ [], reasons := reasons,
               tools := tools }

end ControlPlane.Agents

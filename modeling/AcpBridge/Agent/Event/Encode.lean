import AcpBridge.Agent.Event

/-!
# The wire form of agent events

The JSON an agent event is written as; the bridge passes actions and the events of a call on
as a tool call's raw input or raw output. A tagged value is written as its tag followed by
the members of what it carries: events are tagged by `kind`, actions and observations by
`tool`. Optional members of actions and observations that are absent are left out, and a
terminal action always writes `is_input`; an event's optional action, reasoning and summary
are written as `null` when absent.
-/

namespace AcpBridge
namespace Agent

def intJson (n : Int) : Json := if 0 ≤ n then .num (.nat n.toNat) else .num (.neg n)

def optMember (key : String) (f : α → Json) : Option α → List (String × Json)
  | some a => [(key, f a)]
  | none => []

def TaskStatus.name : TaskStatus → String
  | .todo => "todo"
  | .inProgress => "in_progress"
  | .done => "done"

def Task.toJson (t : Task) : Json :=
  .obj [("title", .str t.title), ("notes", .str t.notes), ("status", .str t.status.name)]

def FileEdit.fields (a : FileEdit) : List (String × Json) :=
  [("command", .str a.command), ("path", .str a.path)] ++ optMember "file_text" .str a.fileText ++
    optMember "old_str" .str a.oldStr ++ optMember "new_str" .str a.newStr ++
    optMember "insert_line" intJson a.insertLine ++
    optMember "view_range" (fun r => .arr (r.map intJson)) a.viewRange

def TerminalCommand.fields (a : TerminalCommand) : List (String × Json) :=
  [("command", .str a.command), ("is_input", .bool a.isInput)] ++ optMember "timeout" Json.float a.timeout

def TaskUpdate.fields (a : TaskUpdate) : List (String × Json) :=
  [("command", .str a.command), ("task_list", .arr (a.tasks.map Task.toJson))]

def Action.tool : Action → String
  | .fileEditor _ => "file_editor"
  | .terminal _ => "terminal"
  | .taskTracker _ => "task_tracker"
  | .think _ => "think"
  | .finish _ => "finish"
  | .generic _ => "generic"

def Action.fields : Action → List (String × Json)
  | .fileEditor a => a.fields
  | .terminal a => a.fields
  | .taskTracker a => a.fields
  | .think thought => [("thought", .str thought)]
  | .finish message => [("message", .str message)]
  | .generic arguments => [("arguments", arguments)]

def Action.toJson (a : Action) : Json := .obj (("tool", .str a.tool) :: a.fields)

def FileEditResult.fields (o : FileEditResult) : List (String × Json) :=
  [("command", .str o.command)] ++ optMember "path" .str o.path ++ [("output", .str o.output)] ++
    optMember "error" .str o.error

def TerminalResult.fields (o : TerminalResult) : List (String × Json) :=
  [("output", .str o.output)] ++ optMember "exit_code" intJson o.exitCode

def Observation.tool : Observation → String
  | .fileEditor _ => "file_editor"
  | .terminal _ => "terminal"
  | .taskTracker _ => "task_tracker"
  | .think => "think"
  | .finish => "finish"
  | .generic _ => "generic"

def Observation.fields : Observation → List (String × Json)
  | .fileEditor o => o.fields
  | .terminal o => o.fields
  | .taskTracker o => o.fields
  | .think => []
  | .finish => []
  | .generic content => [("content", .str content)]

def Observation.toJson (o : Observation) : Json := .obj (("tool", .str o.tool) :: o.fields)

def ObservationEvent.fields (e : ObservationEvent) : List (String × Json) :=
  [("tool_name", .str e.toolName), ("tool_call_id", .str e.toolCallId),
    ("observation", e.observation.toJson)]

def ObservationEvent.toJson (e : ObservationEvent) : Json := .obj e.fields

def Rejection.fields (e : Rejection) : List (String × Json) :=
  [("tool_name", .str e.toolName), ("tool_call_id", .str e.toolCallId),
    ("rejection_reason", .str e.reason)]

def Rejection.toJson (e : Rejection) : Json := .obj e.fields

def AgentError.fields (e : AgentError) : List (String × Json) :=
  [("tool_name", .str e.toolName), ("tool_call_id", .str e.toolCallId), ("error", .str e.error)]

def AgentError.toJson (e : AgentError) : Json := .obj e.fields

/-! ## Events -/

def Role.name : Role → String
  | .user => "user"
  | .assistant => "assistant"
  | .system => "system"
  | .tool => "tool"

def TextContent.toJson (t : TextContent) : Json := .obj [("text", .str t.text)]

def ActionEvent.fields (e : ActionEvent) : List (String × Json) :=
  [("tool_name", .str e.toolName), ("tool_call_id", .str e.toolCallId),
    ("action", Json.opt Action.toJson e.action), ("thought", .arr (e.thought.map TextContent.toJson)),
    ("reasoning_content", Json.optStr e.reasoning)]

def ActionEvent.toJson (e : ActionEvent) : Json := .obj e.fields

/-- The members of an event after its `kind` tag: those of what it carries. An absent
summary is written as `null`. -/
def Event.fields : Event → List (String × Json)
  | .action e => e.fields
  | .observation e => e.fields
  | .rejection e => e.fields
  | .agentError e => e.fields
  | .message role content => [("role", .str role.name), ("content", .str content)]
  | .systemPrompt prompt tools => [("system_prompt", .str prompt), ("tools", .arr (tools.map .str))]
  | .pause => []
  | .condensation forgotten summary =>
    [("forgotten_event_ids", .arr (forgotten.map .str)), ("summary", Json.optStr summary)]
  | .condensationRequest => []
  | .stateUpdate key value => [("key", .str key), ("value", value)]

def Event.toJson (e : Event) : Json := .obj (("kind", .str e.kindName) :: e.fields)

end Agent
end AcpBridge

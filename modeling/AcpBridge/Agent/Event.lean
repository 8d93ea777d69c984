import AcpBridge.Json.Print
import AcpBridge.Text.Blank

/-!
# Agent events

What an agent runtime reports, one discrete event at a time: actions it takes with a tool,
what the tool observed, a rejected or failed call, messages, the system prompt, pauses,
condensations of the history, and updates of the conversation state.

Every event renders as plain display text (`Event.render`); the bridge uses that text as the
content of what it sends to a client.
-/

namespace AcpBridge
namespace Agent

inductive Role where
  | user
  | assistant
  | system
  | tool
  deriving BEq, Repr

structure TextContent where
  text : String
  deriving BEq, Repr

inductive TaskStatus where
  | todo
  | inProgress
  | done
  deriving BEq, Repr

structure Task where
  title : String
  notes : String
  status : TaskStatus

structure FileEdit where
  command : String
  path : String
  fileText : Option String
  oldStr : Option String
  newStr : Option String
  insertLine : Option Int
  /-- `[start, end]`; an end below zero means the end of the file. -/
  viewRange : Option (List Int)

structure TerminalCommand where
  command : String
  isInput : Bool
  timeout : Option Float

structure TaskUpdate where
  command : String
  tasks : List Task

inductive Action where
  | fileEditor (a : FileEdit)
  | terminal (a : TerminalCommand)
  | taskTracker (a : TaskUpdate)
  | think (thought : String)
  | finish (message : String)
  | generic (arguments : Json)

/-- An action event: a tool call, possibly not executed (no action), with the agent's
thoughts and reasoning before it. -/
structure ActionEvent where
  toolName : String
  toolCallId : String
  action : Option Action
  thought : List TextContent
  reasoning : Option String

structure FileEditResult where
  command : String
  path : Option String
  output : String
  error : Option String

structure TerminalResult where
  output : String
  exitCode : Option Int

inductive Observation where
  | fileEditor (o : FileEditResult)
  | terminal (o : TerminalResult)
  | taskTracker (o : TaskUpdate)
  | think
  | finish
  | generic (content : String)

structure ObservationEvent where
  toolName : String
  toolCallId : String
  observation : Observation

structure Rejection where
  toolName : String
  toolCallId : String
  reason : String

structure AgentError where
  toolName : String
  toolCallId : String
  error : String

/-- A discrete event of an agent. -/
inductive Event where
  | action (e : ActionEvent)
  | observation (e : ObservationEvent)
  | rejection (e : Rejection)
  | agentError (e : AgentError)
  | message (role : Role) (content : String)
  | systemPrompt (prompt : String) (tools : List String)
  | pause
  | condensation (forgotten : List String) (summary : Option String)
  | condensationRequest
  | stateUpdate (key : String) (value : Json)

def fileEditorTool : String := "file_editor"
def terminalTool : String := "terminal"
def taskTrackerTool : String := "task_tracker"
def thinkTool : String := "think"
def finishTool : String := "finish"

def Event.kindName : Event → String
  | .action _ => "ActionEvent"
  | .observation _ => "ObservationEvent"
  | .rejection _ => "UserRejectObservation"
  | .agentError _ => "AgentErrorEvent"
  | .message _ _ => "MessageEvent"
  | .systemPrompt _ _ => "SystemPromptEvent"
  | .pause => "PauseEvent"
  | .condensation _ _ => "Condensation"
  | .condensationRequest => "CondensationRequest"
  | .stateUpdate _ _ => "ConversationStateUpdateEvent"

def TaskStatus.mark : TaskStatus → String
  | .todo => "[ ]"
  | .inProgress => "[~]"
  | .done => "[x]"

def renderTasks (tasks : List Task) : String :=
  "\n".intercalate (tasks.map fun t => t.status.mark ++ " " ++ t.title)

/-- A file-editor action: what it does and where, the line range viewed, the text replaced
(`- `), the replacement (`+ `), and the file text. -/
def FileEdit.render (a : FileEdit) : String :=
  let head :=
    match a.command with
    | "view" => "Reading file: " ++ a.path
    | "create" => "Creating file: " ++ a.path
    | "insert" => "Inserting into file: " ++ a.path ++ " at line " ++ toString (a.insertLine.getD 0)
    | "undo_edit" => "Undoing last edit: " ++ a.path
    | _ => "Editing file: " ++ a.path
  let range :=
    match a.viewRange with
    | some [first, last] =>
      " (lines " ++ toString first ++ "-" ++ (if last < 0 then "end" else toString last) ++ ")"
    | _ => ""
  head ++ range ++ (a.oldStr.map ("\n- " ++ ·)).getD "" ++ (a.newStr.map ("\n+ " ++ ·)).getD "" ++
    (a.fileText.map ("\n" ++ ·)).getD ""

def TerminalCommand.render (a : TerminalCommand) : String :=
  if a.isInput then "Sending input: " ++ a.command else "$ " ++ a.command

def TaskUpdate.render (a : TaskUpdate) : String :=
  if a.tasks.isEmpty then "Task tracker: " ++ a.command
  else "Task tracker: " ++ a.command ++ " (" ++ toString a.tasks.length ++ " tasks)\n" ++
    renderTasks a.tasks

def Action.render : Action → String
  | .fileEditor a => a.render
  | .terminal a => a.render
  | .taskTracker a => a.render
  | .think thought => thought
  | .finish message => message
  | .generic arguments => arguments.renderPretty

/-- The display text of an observation. A terminal shows a non-zero exit code after its
output. -/
def Observation.render : Observation → String
  | .fileEditor o =>
    match o.error with
    | some e => "Error: " ++ e
    | none => o.output
  | .terminal o =>
    match o.exitCode with
    | some code => if code != 0 then o.output ++ "\n[exit code: " ++ toString code ++ "]" else o.output
    | none => o.output
  | .taskTracker o => renderTasks o.tasks
  | .think => "Your thought has been logged."
  | .finish => ""
  | .generic content => content

def ActionEvent.thoughtText (e : ActionEvent) : String :=
  " ".intercalate (e.thought.map (·.text))

def Event.render : Event → String
  | .action e =>
    match e.action with
    | some a => a.render
    | none => "Tool call to `" ++ e.toolName ++ "` was not executed"
  | .observation e => e.observation.render
  | .rejection e =>
    if Text.isBlankText e.reason then "User rejected the action"
    else "User rejected the action: " ++ e.reason
  | .agentError e => "Error: " ++ e.error
  | .message _ content => content
  | .systemPrompt prompt tools =>
    if tools.isEmpty then "System Prompt:\n" ++ prompt
    else "System Prompt:\n" ++ prompt ++ "\n\nTools Available: " ++ ", ".intercalate tools
  | .pause => "Agent paused"
  | .condensation forgotten summary =>
    "Conversation condensed: " ++ toString forgotten.length ++ " events forgotten" ++
      match summary with
      | some s => if Text.isBlankText s then "" else "\nSummary: " ++ s
      | none => ""
  | .condensationRequest => "Conversation condensation requested"
  | .stateUpdate key value => key ++ " = " ++ value.render

end Agent
end AcpBridge

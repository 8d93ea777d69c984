import AcpBridge.Agent.Event.Encode
import AcpBridge.Session.Update

/-!
# From agent events to session updates

`translate` says which updates one discrete event produces, in the order they are sent.

* An action event first shares the agent's reasoning and thoughts as thought chunks, when
  they are not blank. Then it starts a tool call: titled by what the action does, of the
  kind of its tool, with the rendered action as content, the file it touches, and the action
  itself as raw input. A think action is shared as a thought and a finish action as a
  message instead; an event without action starts a call marked as not executed.
* An observation closes its call as completed, with the rendered observation as content
  and the event as raw output; a task-list observation first sends the plan. Think and
  finish observations send nothing. A rejected or failed call closes as failed.
* A message is sent only when it is not blank, not the user's (the client shows those
  already) and not already streamed token by token.
* System prompts, pauses and condensations are shared as thoughts.
-/

namespace AcpBridge
namespace Session

open Agent

def notExecutedTitle : String := "Agent Action (Not Executed)"

def planUpdatedTitle : String := "Plan updated"

def lineOf (n : Int) : Option Nat := if 0 ≤ n ∧ n < Int.pow 2 32 then some n.toNat else none

/-- The file an action touches: the file editor's path when it is not empty, at the first
line viewed, or else the line inserted at, when that fits. -/
def actionLocations : Action → List Location
  | .fileEditor a =>
    if a.path.isEmpty then []
    else
      let viewed := (a.viewRange.bind List.head?).bind lineOf
      [⟨a.path, viewed.orElse fun _ => a.insertLine.bind lineOf⟩]
  | _ => []

def planEntry (t : Task) : PlanEntry :=
  ⟨t.title, .medium, match t.status with
    | .todo => .pending
    | .inProgress => .inProgress
    | .done => .completed⟩

def closeCall (id : String) (status : ToolCallStatus) (rendered : String) (raw : Json) : SessionUpdate :=
  .toolCallUpdate { ToolCallProgress.new id with
    status := some status, content := contentBlocks rendered, rawOutput := some raw }

def thoughtIfAny (text : String) : List SessionUpdate :=
  if Text.isBlankText text then [] else [.thought text]

def callHeading (toolName : String) : Action → String × ToolKind
  | .fileEditor a =>
    if a.command == "view" then ("Reading " ++ a.path, .read) else ("Editing " ++ a.path, .edit)
  | .terminal a => (a.command, ToolKind.ofToolName toolName)
  | .taskTracker _ => (planUpdatedTitle, ToolKind.ofToolName toolName)
  | _ => (toolName, ToolKind.ofToolName toolName)

def actionUpdates (e : ActionEvent) : List SessionUpdate :=
  let reasoning :=
    match e.reasoning with
    | some r =>
      let t := Text.trim r
      if t.isEmpty then [] else [SessionUpdate.thought ("**Reasoning**:\n" ++ t ++ "\n")]
    | none => []
  let thought := Text.trim e.thoughtText
  let thoughts := if thought.isEmpty then [] else [SessionUpdate.thought ("\n**Thought**:\n" ++ thought ++ "\n")]
  reasoning ++ thoughts ++
    match e.action with
    | none => [.toolCall (.new e.toolCallId notExecutedTitle (ToolKind.ofToolName e.toolName))]
    | some a =>
      let rendered := a.render
      match a with
      | .think _ => thoughtIfAny rendered
      | .finish _ => if Text.isBlankText rendered then [] else [.message rendered]
      | _ =>
        let (title, kind) := callHeading e.toolName a
        [.toolCall { ToolCallStart.new e.toolCallId title kind with
          content := (contentBlocks rendered).getD [], locations := actionLocations a,
          rawInput := some a.toJson }]

/-- The updates of one event, in send order. `streaming` says that message text already
went out token by token. -/
def translate (event : Event) (streaming : Bool) : List SessionUpdate :=
  match event with
  | .action e => actionUpdates e
  | .observation e =>
    match e.observation with
    | .think | .finish => []
    | .taskTracker o =>
      [.plan (o.tasks.map planEntry),
       .toolCallUpdate { ToolCallProgress.new e.toolCallId with
         status := some .completed, rawOutput := some e.toJson }]
    | o => [closeCall e.toolCallId .completed o.render e.toJson]
  | .rejection e => [closeCall e.toolCallId .failed event.render e.toJson]
  | .agentError e => [closeCall e.toolCallId .failed event.render e.toJson]
  | .message role content =>
    if Text.isBlankText content then []
    else if role == .user then []
    else if streaming then []
    else [.message content]
  | .systemPrompt _ _ | .pause | .condensation _ _ | .condensationRequest => thoughtIfAny event.render
  | .stateUpdate _ _ => []

end Session
end AcpBridge

import AcpBridge.Json.Print
import AcpBridge.Text.Blank

/-!
# Session updates

What the bridge sends to a client: notifications about one session, each carrying one
update. An update starts a tool call, reports progress on one, streams a chunk of the
agent's message or thought, or replaces the agent's plan.

The wire form (`toJson`) tags updates by `sessionUpdate` and names fields in camel case.
Absent options are left out; so are empty content and location lists of a started call.
-/

namespace AcpBridge
namespace Session

/-- The category of a tool, for clients that show tools differently. -/
inductive ToolKind where
  | read
  | edit
  | delete
  | move
  | search
  | execute
  | think
  | fetch
  | switchMode
  | other
  deriving BEq, Repr

def ToolKind.name : ToolKind → String
  | .read => "read"
  | .edit => "edit"
  | .delete => "delete"
  | .move => "move"
  | .search => "search"
  | .execute => "execute"
  | .think => "think"
  | .fetch => "fetch"
  | .switchMode => "switch_mode"
  | .other => "other"

def ToolKind.all : List ToolKind :=
  [.read, .edit, .delete, .move, .search, .execute, .think, .fetch, .switchMode, .other]

/-- The category of a tool by its name: the terminal executes, the file editor edits, the
think tool thinks, browser tools fetch; everything else is other. -/
def ToolKind.ofToolName (name : String) : ToolKind :=
  if name == "terminal" then .execute
  else if name == "file_editor" then .edit
  else if name == "think" then .think
  else if name.startsWith "browser" then .fetch
  else .other

inductive ToolCallStatus where
  | pending
  | inProgress
  | completed
  | failed
  deriving BEq, Repr

def ToolCallStatus.name : ToolCallStatus → String
  | .pending => "pending"
  | .inProgress => "in_progress"
  | .completed => "completed"
  | .failed => "failed"

structure ContentBlock where
  text : String
  deriving BEq, Repr

structure Location where
  path : String
  line : Option Nat

structure ToolCallStart where
  toolCallId : String
  title : String
  kind : ToolKind
  status : ToolCallStatus
  content : List ContentBlock
  locations : List Location
  rawInput : Option Json

def ToolCallStart.new (id title : String) (kind : ToolKind) : ToolCallStart :=
  ⟨id, title, kind, .inProgress, [], [], none⟩

structure ToolCallProgress where
  toolCallId : String
  status : Option ToolCallStatus
  title : Option String
  kind : Option ToolKind
  content : Option (List ContentBlock)
  rawOutput : Option Json

def ToolCallProgress.new (id : String) : ToolCallProgress := ⟨id, none, none, none, none, none⟩

inductive Priority where
  | high
  | medium
  | low

inductive EntryStatus where
  | pending
  | inProgress
  | completed

structure PlanEntry where
  content : String
  priority : Priority
  status : EntryStatus

/-- What a notification tells the client. -/
inductive SessionUpdate where
  | toolCall (s : ToolCallStart)
  | toolCallUpdate (p : ToolCallProgress)
  | messageChunk (c : ContentBlock)
  | thoughtChunk (c : ContentBlock)
  | plan (entries : List PlanEntry)

def SessionUpdate.message (text : String) : SessionUpdate := .messageChunk ⟨text⟩

def SessionUpdate.thought (text : String) : SessionUpdate := .thoughtChunk ⟨text⟩

def SessionUpdate.kindName : SessionUpdate → String
  | .toolCall _ => "tool_call"
  | .toolCallUpdate _ => "tool_call_update"
  | .messageChunk _ => "agent_message_chunk"
  | .thoughtChunk _ => "agent_thought_chunk"
  | .plan _ => "plan"

def SessionUpdate.chunkText : SessionUpdate → Option String
  | .messageChunk c => some c.text
  | .thoughtChunk c => some c.text
  | _ => none

/-- A notification: one update for one session, with optional metadata. -/
structure Notification where
  sessionId : String
  update : SessionUpdate
  metadata : Option Json

def contentBlocks (text : String) : Option (List ContentBlock) :=
  if Text.isBlankText text then none else some [⟨text⟩]

/-! ## Wire form -/

def member? (key : String) (f : α → Json) : Option α → List (String × Json)
  | some a => [(key, f a)]
  | none => []

def ContentBlock.toJson (c : ContentBlock) : Json := .obj [("type", .str "text"), ("text", .str c.text)]

def ContentBlock.toCallContent (c : ContentBlock) : Json :=
  .obj [("type", .str "content"), ("content", c.toJson)]

def Location.toJson (l : Location) : Json :=
  .obj ([("path", .str l.path)] ++ member? "line" Json.nat l.line)

def Priority.name : Priority → String
  | .high => "high"
  | .medium => "medium"
  | .low => "low"

def EntryStatus.name : EntryStatus → String
  | .pending => "pending"
  | .inProgress => "in_progress"
  | .completed => "completed"

def PlanEntry.toJson (e : PlanEntry) : Json :=
  .obj [("content", .str e.content), ("priority", .str e.priority.name), ("status", .str e.status.name)]

def SessionUpdate.toJson : SessionUpdate → Json
  | .toolCall s => .obj ([("sessionUpdate", .str "tool_call"), ("toolCallId", .str s.toolCallId),
      ("title", .str s.title), ("kind", .str s.kind.name), ("status", .str s.status.name)] ++
      (if s.content.isEmpty then [] else [("content", .arr (s.content.map ContentBlock.toCallContent))]) ++
      (if s.locations.isEmpty then [] else [("locations", .arr (s.locations.map Location.toJson))]) ++
      member? "rawInput" id s.rawInput)
  | .toolCallUpdate p => .obj ([("sessionUpdate", .str "tool_call_update"),
      ("toolCallId", .str p.toolCallId)] ++ member? "status" (fun s => .str s.name) p.status ++
      member? "title" .str p.title ++ member? "kind" (fun k => .str k.name) p.kind ++
      member? "content" (fun cs => .arr (cs.map ContentBlock.toCallContent)) p.content ++
      member? "rawOutput" id p.rawOutput)
  | .messageChunk c => .obj [("sessionUpdate", .str "agent_message_chunk"), ("content", c.toJson)]
  | .thoughtChunk c => .obj [("sessionUpdate", .str "agent_thought_chunk"), ("content", c.toJson)]
  | .plan entries => .obj [("sessionUpdate", .str "plan"), ("entries", .arr (entries.map PlanEntry.toJson))]

def Notification.toJson (n : Notification) : Json :=
  .obj ([("sessionId", .str n.sessionId), ("update", n.update.toJson)] ++ member? "_meta" id n.metadata)

/-- The JSON-RPC message that carries a notification: a `session/update` call. -/
def Notification.toRpc (n : Notification) : Json :=
  .obj [("jsonrpc", .str "2.0"), ("method", .str "session/update"), ("params", n.toJson)]

/-- The line a stream client writes for a notification: the message, compact, and a line
feed. -/
def Notification.line (n : Notification) : String := n.toRpc.render ++ "\n"

end Session
end AcpBridge

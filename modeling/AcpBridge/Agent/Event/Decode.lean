import AcpBridge.Agent.Event
import AcpBridge.Json.Decode

/-!
# Decoding agent events

Events are objects tagged by `kind`; actions and observations are tagged by `tool`. A
variant's content is decoded after its tag is found, from the content that the tag search
set aside. Fields with defaults may be left out: a task-list command is `view`, lists are
empty, texts are empty, options are absent, `is_input` is false and free arguments are
`null`.
-/

namespace AcpBridge
namespace Agent

open Fields

def Decode.choice (choices : List (String × α)) (fallback : α) : Decoder α := fun src j =>
  (AcpBridge.Decode.names (choices.map (·.1)) src j).map fun i => ((choices[i]?).map (·.2)).getD fallback

def Role.decode : Decoder Role :=
  Decode.choice [("user", .user), ("assistant", .assistant), ("system", .system), ("tool", .tool)] .user

def TaskStatus.decode : Decoder TaskStatus :=
  Decode.choice [("todo", .todo), ("in_progress", .inProgress), ("done", .done)] .todo

def TextContent.decode : Decoder TextContent :=
  (TextContent.mk <$> required "text" Decode.string).decode "struct TextContent"

def Task.decode : Decoder Task :=
  (Task.mk <$> required "title" Decode.string <*> withDefault "notes" Decode.string "" <*>
    required "status" TaskStatus.decode).decode "struct TaskItem"

def FileEdit.decode : Decoder FileEdit :=
  (FileEdit.mk <$> required "command" Decode.string <*> required "path" Decode.string <*>
    maybe "file_text" Decode.string <*> maybe "old_str" Decode.string <*>
    maybe "new_str" Decode.string <*> maybe "insert_line" Decode.i64 <*>
    maybe "view_range" (Decode.list Decode.i64)).decode "struct FileEditorAction"

def TerminalCommand.decode : Decoder TerminalCommand :=
  (TerminalCommand.mk <$> required "command" Decode.string <*>
    withDefault "is_input" Decode.bool false <*> maybe "timeout" Decode.float).decode
    "struct TerminalAction"

def TaskUpdate.decodeAs (name : String) : Decoder TaskUpdate :=
  (TaskUpdate.mk <$> withDefault "command" Decode.string "view" <*>
    withDefault "task_list" (Decode.list Task.decode) []).decode name

def toolTags : List String := ["file_editor", "terminal", "task_tracker", "think", "finish", "generic"]

def Action.decode : Decoder Action := fun src j => do
  let (i, content) ← AcpBridge.Decode.tagged "tool" "Action" toolTags src j
  match i with
  | 0 => Action.fileEditor <$> FileEdit.decode .buffered content
  | 1 => Action.terminal <$> TerminalCommand.decode .buffered content
  | 2 => Action.taskTracker <$> TaskUpdate.decodeAs "struct TaskTrackerAction" .buffered content
  | 3 => Action.think <$> (required "thought" Decode.string).decode "struct ThinkAction" .buffered content
  | 4 => Action.finish <$> (required "message" Decode.string).decode "struct FinishAction" .buffered content
  | _ => Action.generic <$>
    (withDefault "arguments" Decode.value Json.null).decode "struct GenericAction" .buffered content

def FileEditResult.decode : Decoder FileEditResult :=
  (FileEditResult.mk <$> withDefault "command" Decode.string "" <*> maybe "path" Decode.string <*>
    withDefault "output" Decode.string "" <*> maybe "error" Decode.string).decode
    "struct FileEditorObservation"

def TerminalResult.decode : Decoder TerminalResult :=
  (TerminalResult.mk <$> withDefault "output" Decode.string "" <*> maybe "exit_code" Decode.i32).decode
    "struct TerminalObservation"

def Observation.decode : Decoder Observation := fun src j => do
  let (i, content) ← AcpBridge.Decode.tagged "tool" "Observation" toolTags src j
  match i with
  | 0 => Observation.fileEditor <$> FileEditResult.decode .buffered content
  | 1 => Observation.terminal <$> TerminalResult.decode .buffered content
  | 2 => Observation.taskTracker <$> TaskUpdate.decodeAs "struct TaskTrackerObservation" .buffered content
  | 3 => (Fields.pure Observation.think).decode "struct ThinkObservation" .buffered content
  | 4 => (Fields.pure Observation.finish).decode "struct FinishObservation" .buffered content
  | _ => Observation.generic <$>
    (withDefault "content" Decode.string "").decode "struct GenericObservation" .buffered content

def ActionEvent.decode : Decoder ActionEvent :=
  (ActionEvent.mk <$> required "tool_name" Decode.string <*> required "tool_call_id" Decode.string <*>
    maybe "action" Action.decode <*> withDefault "thought" (Decode.list TextContent.decode) [] <*>
    maybe "reasoning_content" Decode.string).decode "struct ActionEvent"

def ObservationEvent.decode : Decoder ObservationEvent :=
  (ObservationEvent.mk <$> required "tool_name" Decode.string <*>
    required "tool_call_id" Decode.string <*> required "observation" Observation.decode).decode
    "struct ObservationEvent"

def Rejection.decode : Decoder Rejection :=
  (Rejection.mk <$> required "tool_name" Decode.string <*> required "tool_call_id" Decode.string <*>
    withDefault "rejection_reason" Decode.string "").decode "struct UserRejectObservation"

def AgentError.decode : Decoder AgentError :=
  (AgentError.mk <$> required "tool_name" Decode.string <*> required "tool_call_id" Decode.string <*>
    required "error" Decode.string).decode "struct AgentErrorEvent"

def eventKinds : List String :=
  ["ActionEvent", "ObservationEvent", "UserRejectObservation", "AgentErrorEvent", "MessageEvent",
   "SystemPromptEvent", "PauseEvent", "Condensation", "CondensationRequest",
   "ConversationStateUpdateEvent"]

def messageFields : Fields Event :=
  Event.message <$> required "role" Role.decode <*> required "content" Decode.string

def systemPromptFields : Fields Event :=
  Event.systemPrompt <$> required "system_prompt" Decode.string <*>
    withDefault "tools" (Decode.list Decode.string) []

def condensationFields : Fields Event :=
  Event.condensation <$> withDefault "forgotten_event_ids" (Decode.list Decode.string) [] <*>
    maybe "summary" Decode.string

def stateUpdateFields : Fields Event :=
  Event.stateUpdate <$> required "key" Decode.string <*> withDefault "value" Decode.value Json.null

def Event.decode : Decoder Event := fun src j => do
  let (i, c) ← AcpBridge.Decode.tagged "kind" "Event" eventKinds src j
  let b := Source.buffered
  match i with
  | 0 => Event.action <$> ActionEvent.decode b c
  | 1 => Event.observation <$> ObservationEvent.decode b c
  | 2 => Event.rejection <$> Rejection.decode b c
  | 3 => Event.agentError <$> AgentError.decode b c
  | 4 => messageFields.decode "struct MessageEvent" b c
  | 5 => systemPromptFields.decode "struct SystemPromptEvent" b c
  | 6 => (Fields.pure Event.pause).decode "struct PauseEvent" b c
  | 7 => condensationFields.decode "struct Condensation" b c
  | 8 => (Fields.pure Event.condensationRequest).decode "struct CondensationRequest" b c
  | _ => stateUpdateFields.decode "struct ConversationStateUpdateEvent" b c

end Agent
end AcpBridge

import AcpBridge.Session.Update
import AcpBridge.Json.Decode

/-!
# Decoding session updates

Notifications as a client would send them back: an object with `sessionId`, `update` and an
optional `_meta`. Updates are tagged by `sessionUpdate`; content blocks and tool-call
content by `type`. Absent lists are empty and absent options none.
-/

namespace AcpBridge
namespace Session

open Fields

def choice (choices : List (String × α)) (fallback : α) : Decoder α := fun src j =>
  (Decode.names (choices.map (·.1)) src j).map fun i => ((choices[i]?).map (·.2)).getD fallback

def ToolKind.decode : Decoder ToolKind := choice (ToolKind.all.map fun k => (k.name, k)) .other

def ToolCallStatus.decode : Decoder ToolCallStatus :=
  choice [("pending", .pending), ("in_progress", .inProgress), ("completed", .completed),
    ("failed", .failed)] .pending

def Priority.decode : Decoder Priority :=
  choice [("high", .high), ("medium", .medium), ("low", .low)] .medium

def EntryStatus.decode : Decoder EntryStatus :=
  choice [("pending", .pending), ("in_progress", .inProgress), ("completed", .completed)] .pending

def ContentBlock.decode : Decoder ContentBlock := fun src j => do
  let (_, c) ← Decode.tagged "type" "ContentBlock" ["text"] src j
  (ContentBlock.mk <$> required "text" Decode.string).decode "struct variant ContentBlock::Text" .buffered c

def ContentBlock.decodeCallContent : Decoder ContentBlock := fun src j => do
  let (_, c) ← Decode.tagged "type" "ToolCallContent" ["content"] src j
  (required "content" ContentBlock.decode).decode "struct variant ToolCallContent::Content" .buffered c

def Location.decode : Decoder Location :=
  (Location.mk <$> required "path" Decode.string <*> maybe "line" Decode.u32).decode
    "struct ToolCallLocation"

def PlanEntry.decode : Decoder PlanEntry :=
  (PlanEntry.mk <$> required "content" Decode.string <*> required "priority" Priority.decode <*>
    required "status" EntryStatus.decode).decode "struct PlanEntry"

def ToolCallStart.decode : Decoder ToolCallStart :=
  (ToolCallStart.mk <$> required "toolCallId" Decode.string <*> required "title" Decode.string <*>
    required "kind" ToolKind.decode <*> required "status" ToolCallStatus.decode <*>
    withDefault "content" (Decode.list ContentBlock.decodeCallContent) [] <*>
    withDefault "locations" (Decode.list Location.decode) [] <*>
    maybe "rawInput" Decode.value).decode "struct ToolCallStart"

def ToolCallProgress.decode : Decoder ToolCallProgress :=
  (ToolCallProgress.mk <$> required "toolCallId" Decode.string <*>
    maybe "status" ToolCallStatus.decode <*> maybe "title" Decode.string <*>
    maybe "kind" ToolKind.decode <*> maybe "content" (Decode.list ContentBlock.decodeCallContent) <*>
    maybe "rawOutput" Decode.value).decode "struct ToolCallProgress"

def updateKinds : List String :=
  ["tool_call", "tool_call_update", "agent_message_chunk", "agent_thought_chunk", "plan"]

def SessionUpdate.decode : Decoder SessionUpdate := fun src j => do
  let (i, c) ← Decode.tagged "sessionUpdate" "SessionUpdate" updateKinds src j
  let b := Source.buffered
  match i with
  | 0 => SessionUpdate.toolCall <$> ToolCallStart.decode b c
  | 1 => SessionUpdate.toolCallUpdate <$> ToolCallProgress.decode b c
  | 2 => (SessionUpdate.messageChunk <$> chunk).decode (variant "AgentMessageChunk") b c
  | 3 => (SessionUpdate.thoughtChunk <$> chunk).decode (variant "AgentThoughtChunk") b c
  | _ => (SessionUpdate.plan <$> required "entries" (Decode.list PlanEntry.decode)).decode (variant "Plan") b c
where
  chunk : Fields ContentBlock := required "content" ContentBlock.decode
  variant (name : String) : String := "struct variant SessionUpdate::" ++ name

def Notification.decode : Decoder Notification :=
  (Notification.mk <$> required "sessionId" Decode.string <*> required "update" SessionUpdate.decode <*>
    maybe "_meta" Decode.value).decode "struct SessionNotification"

end Session
end AcpBridge

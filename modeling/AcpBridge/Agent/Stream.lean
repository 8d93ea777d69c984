import AcpBridge.Json.Decode
import AcpBridge.Json.Print

/-!
# Token-stream chunks

Incremental model output: each chunk has choices, each choice may carry a delta of message
text, reasoning text and tool-call fragments. A tool-call fragment names its stream index,
and may carry the call's id, its function name and a piece of its arguments.

An empty string counts as absent in every accessor (`text`, `reasoning`, `id`, `name`,
`arguments`): some gateways send `""` on continuation deltas.
-/

namespace AcpBridge
namespace Agent

structure FunctionDelta where
  name : Option String
  arguments : Option String

structure ToolCallDelta where
  index : Nat
  id : Option String
  function : Option FunctionDelta

structure Delta where
  content : Option String
  reasoningContent : Option String
  toolCalls : Option (List ToolCallDelta)

structure StreamChoice where
  index : Nat
  delta : Option Delta

structure StreamChunk where
  choices : List StreamChoice

def nonEmpty : Option String → Option String
  | some s => if s.isEmpty then none else some s
  | none => none

def ToolCallDelta.callId (d : ToolCallDelta) : Option String := nonEmpty d.id

def ToolCallDelta.name (d : ToolCallDelta) : Option String := nonEmpty (d.function.bind (·.name))

def ToolCallDelta.arguments (d : ToolCallDelta) : Option String :=
  nonEmpty (d.function.bind (·.arguments))

def Delta.reasoning (d : Delta) : Option String := nonEmpty d.reasoningContent

def Delta.text (d : Delta) : Option String := nonEmpty d.content

def Delta.empty : Delta := ⟨none, none, none⟩

def StreamChunk.ofDelta (d : Delta) : StreamChunk := ⟨[⟨0, some d⟩]⟩

def StreamChunk.content (text : String) : StreamChunk := .ofDelta { Delta.empty with content := some text }

def StreamChunk.reasoning (text : String) : StreamChunk :=
  .ofDelta { Delta.empty with reasoningContent := some text }

def StreamChunk.toolCall (index : Nat) (id name arguments : Option String) : StreamChunk :=
  .ofDelta { Delta.empty with toolCalls := some [⟨index, id, some ⟨name, arguments⟩⟩] }

/-! ## Wire form: every field written, `null` for absent ones -/

def FunctionDelta.toJson (f : FunctionDelta) : Json :=
  .obj [("name", Json.optStr f.name), ("arguments", Json.optStr f.arguments)]

def ToolCallDelta.toJson (d : ToolCallDelta) : Json :=
  .obj [("index", Json.nat d.index), ("id", Json.optStr d.id), ("function", Json.opt FunctionDelta.toJson d.function)]

def Delta.toJson (d : Delta) : Json :=
  .obj [("content", Json.optStr d.content), ("reasoning_content", Json.optStr d.reasoningContent),
    ("tool_calls", Json.opt (fun ts => .arr (ts.map ToolCallDelta.toJson)) d.toolCalls)]

def StreamChunk.toJson (c : StreamChunk) : Json :=
  .obj [("choices", .arr (c.choices.map fun ch =>
    .obj [("index", Json.nat ch.index), ("delta", Json.opt Delta.toJson ch.delta)]))]

/-! ## Decoding: every field may be left out -/

open Fields

def FunctionDelta.decode : Decoder FunctionDelta :=
  (FunctionDelta.mk <$> maybe "name" Decode.string <*> maybe "arguments" Decode.string).decode
    "struct FunctionDelta"

def ToolCallDelta.decode : Decoder ToolCallDelta :=
  (ToolCallDelta.mk <$> withDefault "index" Decode.usize 0 <*> maybe "id" Decode.string <*>
    maybe "function" FunctionDelta.decode).decode "struct ToolCallDelta"

def Delta.decode : Decoder Delta :=
  (Delta.mk <$> maybe "content" Decode.string <*> maybe "reasoning_content" Decode.string <*>
    maybe "tool_calls" (Decode.list ToolCallDelta.decode)).decode "struct Delta"

def StreamChoice.decode : Decoder StreamChoice :=
  (StreamChoice.mk <$> withDefault "index" Decode.u32 0 <*> maybe "delta" Delta.decode).decode
    "struct StreamChoice"

def StreamChunk.decode : Decoder StreamChunk :=
  (StreamChunk.mk <$> withDefault "choices" (Decode.list StreamChoice.decode) []).decode
    "struct StreamChunk"

end Agent
end AcpBridge

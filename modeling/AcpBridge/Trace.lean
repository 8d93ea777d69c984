import AcpBridge.Agent.Event.Decode
import AcpBridge.Agent.Stream
import AcpBridge.Metrics.Usage
import AcpBridge.Json.Read.Tagged
import AcpBridge.Text.Blank

/-!
# Traces

A trace records what an agent did, one item per line of JSON: a discrete event, a chunk of
the token stream, a usage record with its cost, or the start of a new turn. Items are tagged
by their `type` member.

Lines are split at line feeds, a carriage return before the feed is dropped, and lines that
are blank are skipped. The first line that is not an item stops reading, and the failure
names the line, counted from one with blank lines included.
-/

namespace AcpBridge

open Agent Metrics

/-- One recorded step of an agent. -/
inductive TraceItem where
  | event (e : Event)
  | token (chunk : StreamChunk)
  | usage (u : TokenUsage) (cost : Float)
  | newTurn

namespace TraceItem

def tags : List String := ["event", "token", "usage", "new_turn"]

def tag : TraceItem → String
  | .event _ => "event"
  | .token _ => "token"
  | .usage _ _ => "usage"
  | .newTurn => "new_turn"

def content : Nat → Decoder TraceItem
  | 0 => (TraceItem.event <$> Fields.required "event" Event.decode).decode
      "struct variant TraceItem::Event"
  | 1 => (TraceItem.token <$> Fields.required "chunk" StreamChunk.decode).decode
      "struct variant TraceItem::Token"
  | 2 => (TraceItem.usage <$> Fields.required "usage" TokenUsage.decode <*>
      Fields.withDefault "cost" Decode.float 0.0).decode "struct variant TraceItem::Usage"
  | _ => fun src j => (fun _ => TraceItem.newTurn) <$> Decode.unit src j

/-- An item as a document. -/
def read (fuel : Nat) : Reader.ReadM TraceItem := do
  let (i, c) ← Reader.tagged fuel "type" "TraceItem" tags
  Reader.decodeSetAside (content i) c

def ofLine (s : String) : Except ReadError TraceItem := Reader.run s read

end TraceItem

/-- A line of a trace that is not an item. -/
structure TraceError where
  /-- The line, counted from one. -/
  line : Nat
  cause : ReadError

def TraceError.context (e : TraceError) : String :=
  "Invalid trace item on line " ++ toString e.line

def TraceError.message (e : TraceError) : String := e.context ++ ": " ++ e.cause.message

def dropReturn (l : String) : String :=
  if l.endsWith "\r" then String.ofList l.toList.dropLast else l

/-- The lines of a text: split at line feeds, a carriage return just before a feed dropped,
and no empty last line after a final feed. A last line that no feed ends keeps a final
carriage return. -/
def lines (s : String) : List String :=
  if s.isEmpty then [] else
  let parts := (s.split '\n').toList.map (·.copy)
  -- every part but the last was ended by a feed; the last is empty exactly after a final feed
  parts.dropLast.map dropReturn ++ (parts.getLast?.filter (· != "")).toList

def readLines : Nat → List String → Except TraceError (List TraceItem)
  | _, [] => .ok []
  | n, l :: rest =>
    if Text.isBlankText l then readLines (n + 1) rest
    else
      match TraceItem.ofLine l with
      | .error e => .error ⟨n, e⟩
      | .ok item => (item :: ·) <$> readLines (n + 1) rest

/-- The items of a trace's text. -/
def parseTrace (s : String) : Except TraceError (List TraceItem) := readLines 1 (lines s)

@[simp] theorem lines_empty : lines "" = [] := rfl

end AcpBridge

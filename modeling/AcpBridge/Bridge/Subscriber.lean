import AcpBridge.Bridge.Route
import AcpBridge.Session.Translate
import AcpBridge.Session.Tracker
import AcpBridge.Config
import AcpBridge.Metrics.Status

/-!
# The subscriber of one session

The subscriber turns what the agent does into notifications for one session, and schedules
them on a `Line`. It has two entry points.

* `handle` takes a discrete event: its updates are sent in order, each with the metrics of
  the session once usage is known (`dispatch`). A failed send drops the event's remaining
  updates and is otherwise ignored: an event never fails.
* `onToken` takes a chunk of the token stream: for each choice with a delta, the tool-call
  deltas are folded into the tracker and what it says is sent, then the reasoning and then
  the text, without metrics. The first failed send stops the chunk, and the failure comes
  back as an internal error of the token path.

`resetTurn` forgets the tool calls of the turn, and `record` adds usage to the session's
totals.
-/

namespace AcpBridge
namespace Bridge

open Session Agent Metrics

/-- The notifier of one session. -/
structure Subscriber where
  sessionId : String
  streaming : Bool
  metricsKey : String
  statsAttached : Bool
  totals : Totals := .empty
  tracker : Tracker := .empty
  /-- Where notifications go. -/
  line : Line

namespace Subscriber

def ofConfig (sessionId : String) (config : Config) (line : Line) (stats : Bool) : Subscriber where
  sessionId := sessionId
  streaming := config.streamingEnabled
  metricsKey := config.metricsKey
  statsAttached := stats
  line := line

def notification (s : Subscriber) (u : SessionUpdate) (withMetrics : Bool) : Notification :=
  ⟨s.sessionId, u,
    if withMetrics then metadata? s.metricsKey (if s.statsAttached then some s.totals else none)
    else none⟩

def send (s : Subscriber) (withMetrics : Bool) (u : SessionUpdate) : Subscriber × Except BridgeError Unit :=
  let (line, r) := s.line.schedule (s.notification u withMetrics)
  ({ s with line := line }, r)

def sendAll (s : Subscriber) (withMetrics : Bool) : List SessionUpdate → Subscriber × Except BridgeError Unit
  | [] => (s, .ok ())
  | u :: rest =>
    match s.send withMetrics u with
    | (s, .ok ()) => s.sendAll withMetrics rest
    | (s, .error e) => (s, .error e)

/-- Route a discrete event: its updates in order, each with metrics, stopping at the first
failure, which comes back as it is. -/
def dispatch (s : Subscriber) (e : Event) (streaming : Bool) : Subscriber × Except BridgeError Unit :=
  s.sendAll true (translate e streaming)

def handle (s : Subscriber) (e : Event) : Subscriber :=
  (s.sendAll true (translate e s.streaming)).1

/-- The update of what the tracker says: a started call titled by its name, a thought, or a
fragment of a call's arguments as its content. -/
def streamUpdate : StreamAction → SessionUpdate
  | .start id name => .toolCall (.new id name (ToolKind.ofToolName name))
  | .thought text => .thought text
  | .progress id fragment =>
    .toolCallUpdate { ToolCallProgress.new id with content := some [⟨fragment⟩] }

def toolCalls (s : Subscriber) : List ToolCallDelta → Subscriber × Except BridgeError Unit
  | [] => (s, .ok ())
  | d :: rest =>
    let (tracker, actions) := s.tracker.observe d
    match ({ s with tracker := tracker } : Subscriber).sendAll false (actions.map streamUpdate) with
    | (s, .ok ()) => s.toolCalls rest
    | (s, .error e) => (s, .error e)

def streamDelta (s : Subscriber) (d : Delta) : Subscriber × Except BridgeError Unit :=
  match s.toolCalls (d.toolCalls.getD []) with
  | (s, .error e) => (s, .error e)
  | (s, .ok ()) =>
    s.sendAll false ((d.reasoning.map SessionUpdate.thought).toList ++
      (d.text.map SessionUpdate.message).toList)

def streamDeltas (s : Subscriber) : List Delta → Subscriber × Except BridgeError Unit
  | [] => (s, .ok ())
  | d :: rest =>
    match s.streamDelta d with
    | (s, .ok ()) => s.streamDeltas rest
    | (s, .error e) => (s, .error e)

/-- Take a chunk of the token stream. A failure comes back as an internal error of the token
path. -/
def onToken (s : Subscriber) (chunk : StreamChunk) : Subscriber × Except BridgeError Unit :=
  let (s, r) := s.streamDeltas (chunk.choices.filterMap (·.delta))
  (s, ErrorPolicy.tokenStreaming.apply r)

def resetTurn (s : Subscriber) : Subscriber := { s with tracker := s.tracker.reset }

def record (s : Subscriber) (u : TokenUsage) (cost : Float) : Subscriber :=
  { s with totals := s.totals.record u cost }

@[simp] theorem notification_metadata_of_not (s : Subscriber) (u : SessionUpdate) :
    (s.notification u false).metadata = none := rfl

@[simp] theorem tracker_size_resetTurn (s : Subscriber) : s.resetTurn.tracker.size = 0 := rfl

end Subscriber

end Bridge
end AcpBridge

import AcpBridge.Agent.Stream
import AcpBridge.Agent.Event
import AcpBridge.Session.Fragment

/-!
# Tracking streamed tool calls

During one model turn, tool calls arrive in fragments, each at a stream index. The tracker
keeps per index what is known of the call (its id, its name, whether it is a think call,
whether it has started) and the argument fragments that came before it could start.

A call starts once both its id and its name are known, unless it is a think call; the start
is announced once. A started call's fragments go out as progress; a think call's fragments go
out as thoughts, scaffolding filtered away. Fragments of a call that cannot start yet wait,
and go out, in order, right after its start. An index seen first without id or name is
ignored with its fragment. Id and name, once set, are kept.

`reset` ends the turn: every index is forgotten, and it answers how many waiting fragments
were dropped.
-/

namespace AcpBridge
namespace Session

open Agent

structure CallState where
  toolCallId : Option String
  name : Option String
  isThink : Bool
  started : Bool
  /-- Argument fragments that came before the call could start. -/
  pending : List String

def CallState.empty : CallState := ⟨none, none, false, false, []⟩

def CallState.ready (s : CallState) : Bool :=
  !s.started && !s.isThink && s.toolCallId.isSome && s.name.isSome

def CallState.flowing (s : CallState) : Bool := s.started || s.isThink

inductive StreamAction where
  | start (toolCallId name : String)
  | thought (text : String)
  | progress (toolCallId fragment : String)

/-- The tracked calls of a turn, by stream index, in the order first seen. -/
structure Tracker where
  calls : List (Nat × CallState)

def Tracker.empty : Tracker := ⟨[]⟩

def Tracker.state? (t : Tracker) (index : Nat) : Option CallState :=
  (t.calls.find? (·.1 == index)).map (·.2)

def Tracker.size (t : Tracker) : Nat := t.calls.length

def Tracker.put (t : Tracker) (index : Nat) (s : CallState) : Tracker :=
  if t.calls.any (·.1 == index) then ⟨t.calls.map fun c => if c.1 == index then (index, s) else c⟩
  else ⟨t.calls ++ [(index, s)]⟩

/-- What a fragment of a flowing call sends: a thought that passes the filter, or progress
once the call has an id. -/
def CallState.emit (s : CallState) (fragment : String) : List StreamAction :=
  if s.isThink then
    match FragmentFilter.thought.pass fragment with
    | some text => [.thought text]
    | none => []
  else
    match s.toolCallId with
    | some id => [.progress id fragment]
    | none => []

/-- Fold a delta into what is known of its call: the new state and what to send. -/
def CallState.observe (s : CallState) (d : ToolCallDelta) : CallState × List StreamAction :=
  let s := if s.toolCallId.isNone then { s with toolCallId := d.callId } else s
  let s :=
    match s.name, d.name with
    | none, some n => { s with name := some n, isThink := n == thinkTool }
    | _, _ => s
  let (s, starts) :=
    match s.ready, s.toolCallId, s.name with
    | true, some id, some n => ({ s with started := true }, [StreamAction.start id n])
    | _, _, _ => (s, [])
  let (s, flushed) :=
    if s.flowing then ({ s with pending := [] }, s.pending.flatMap s.emit) else (s, [])
  match d.arguments with
  | some fragment =>
    if s.flowing then (s, starts ++ flushed ++ s.emit fragment)
    else ({ s with pending := s.pending ++ [fragment] }, starts ++ flushed)
  | none => (s, starts ++ flushed)

/-- Fold a delta into the tracker: the new tracker and what to send, in order. -/
def Tracker.observe (t : Tracker) (d : ToolCallDelta) : Tracker × List StreamAction :=
  match t.state? d.index with
  | some s =>
    let (s', actions) := s.observe d
    (t.put d.index s', actions)
  | none =>
    if d.callId.isNone && d.name.isNone then (t, [])
    else
      let (s', actions) := CallState.empty.observe d
      (t.put d.index s', actions)

def Tracker.waiting (t : Tracker) : Nat :=
  (t.calls.map fun c => c.2.pending.length).foldr (· + ·) 0

def Tracker.reset (_ : Tracker) : Tracker := .empty

@[simp] theorem Tracker.size_reset (t : Tracker) : t.reset.size = 0 := rfl

end Session
end AcpBridge

import AcpBridge.Bridge.Subscriber
import AcpBridge.Trace

/-!
# Replaying a trace

A trace is replayed by feeding its items to a subscriber in order: events are handled,
token chunks streamed, usage recorded into the totals, and a new turn resets the tracker.
The replay counts events, token chunks and turns (a replay starts in its first turn), and it
stops at the first failure of the token path; events never fail.

`steps` replays item by item, each as a replay of its own, and tells for each what reached
the client during it; it stops after the first item that fails.
-/

namespace AcpBridge

open Bridge Session

structure Summary where
  events : Nat := 0
  tokens : Nat := 0
  turns : Nat := 1
  deriving DecidableEq, Repr

namespace Bridge.Subscriber

def feed (s : Subscriber) (sum : Summary) : TraceItem → Subscriber × Except BridgeError Summary
  | .event e => (s.handle e, .ok { sum with events := sum.events + 1 })
  | .token chunk =>
    match s.onToken chunk with
    | (s, .ok ()) => (s, .ok { sum with tokens := sum.tokens + 1 })
    | (s, .error e) => (s, .error e)
  | .usage u cost => (s.record u cost, .ok sum)
  | .newTurn => (s.resetTurn, .ok { sum with turns := sum.turns + 1 })

def feedAll (s : Subscriber) (sum : Summary) : List TraceItem → Subscriber × Except BridgeError Summary
  | [] => (s, .ok sum)
  | item :: rest =>
    match s.feed sum item with
    | (s, .ok sum) => s.feedAll sum rest
    | (s, .error e) => (s, .error e)

/-- Replay items. -/
def replay (s : Subscriber) (items : List TraceItem) : Subscriber × Except BridgeError Summary :=
  s.feedAll {} items

theorem feed_event (s : Subscriber) (sum : Summary) (e : Agent.Event) :
    (s.feed sum (.event e)).2 = .ok { sum with events := sum.events + 1 } := rfl

end Bridge.Subscriber

/-- One item replayed on its own. -/
structure Step where
  item : TraceItem
  delivered : List Notification
  trackedCalls : Nat
  outcome : Except BridgeError Summary

def steps (s : Subscriber) : List TraceItem → List Step
  | [] => []
  | item :: rest =>
    let before := s.line.client.taken.length
    let (s, r) := s.replay [item]
    let step : Step := ⟨item, s.line.client.taken.drop before, s.tracker.size, r⟩
    match r with
    | .ok _ => step :: steps s rest
    | .error _ => [step]

end AcpBridge

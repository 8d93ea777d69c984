import AcpBridge.Bridge.Client

/-!
# How notifications reach the client

The agent side schedules notifications from its own thread; a `Route` says how they reach
the client.

* `inline` hands each notification to the client at once, and the client's answer is the
  answer of the send. This cannot wait inside a runtime that has a single thread, so there
  every send fails.
* `queue` puts notifications in a bounded queue that a consumer empties in order. When the
  consumer runs alongside the sender, a full queue makes the sender wait, so every send
  succeeds; the client's refusals are only logged by the consumer. When the consumer can run
  only after the sender is done, a send to a full queue fails instead. When the consumer was
  stopped, the queue is closed and every send fails. A queue cannot have more than
  `queueLimit` places.

`Line` is a route with its client and the notifications still queued.
-/

namespace AcpBridge
namespace Bridge

open Session

inductive Consumer where
  | alongside
  | afterwards
  | stopped
  deriving DecidableEq, Repr

/-- How scheduled notifications reach the client. -/
inductive Route where
  | inline (singleThreaded : Bool)
  | queue (capacity : Nat) (consumer : Consumer)
  deriving DecidableEq, Repr

def queueFullReason : String := "notification queue full"

def inlineBusyReason : String := "inline send inside a current-thread runtime"

/-- The most places a queue may have: its free places are counted in a machine word that
keeps three bits for itself. -/
def queueLimit : Nat := Nat.pow 2 61 - 1

/-- Why a route cannot be set up: a queue with more places than `queueLimit` (a queue has at
least one place). -/
def Route.refusal : Route → Option String
  | .inline _ => none
  | .queue capacity _ =>
    if queueLimit < max capacity 1 then
      some ("a semaphore may not have more than MAX_PERMITS permits (" ++ toString queueLimit ++ ")")
    else none

/-- A route with its client and the notifications still queued, oldest first. -/
structure Line where
  route : Route
  client : Client
  queued : List Notification := []

namespace Line

def isInline (l : Line) : Bool :=
  match l.route with
  | .inline _ => true
  | .queue _ _ => false

/-- Schedule a notification. -/
def schedule (l : Line) (n : Notification) : Line × Except BridgeError Unit :=
  match l.route with
  | .inline false =>
    let (c, r) := l.client.receive n
    ({ l with client := c }, r)
  | .inline true => (l, .error (.sendFailed inlineBusyReason))
  | .queue _ .alongside => ({ l with client := (l.client.receive n).1 }, .ok ())
  | .queue capacity .afterwards =>
    if l.queued.length < max capacity 1 then ({ l with queued := l.queued ++ [n] }, .ok ())
    else (l, .error (.sendFailed queueFullReason))
  | .queue _ .stopped => (l, .error .connectionClosed)

def drain (l : Line) : Line :=
  { l with client := l.client.receiveAll l.queued, queued := [] }

theorem queued_length_schedule (l : Line) (n : Notification) (capacity : Nat)
    (hroute : l.route = .queue capacity .afterwards) (h : l.queued.length ≤ max capacity 1) :
    (l.schedule n).1.queued.length ≤ max capacity 1 := by
  unfold schedule
  rw [hroute]
  dsimp only
  split
  · rename_i hlt
    show (l.queued ++ [n]).length ≤ max capacity 1
    rw [List.length_append, List.length_singleton]
    exact hlt
  · exact h

end Line

end Bridge
end AcpBridge

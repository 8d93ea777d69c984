import AcpBridge.Cli.Run

/-!
# A client that keeps a log

A logging client wraps another client. Every notification handed to it is first written to a
log file as one line (`logLine`: the time, the direction `<<<` and the notification's JSON-RPC
message), then handed to the wrapped client, whose answer is the answer.

Logging is best effort. It is on only when the log's directory could be made. The file is
opened for appending at the first entry; when opening fails the entry is lost and the next one
opens it again. A failed write or flush loses the entry too. Such a failure gives a warning
record and nothing else: it never reaches the wrapped client or the answer.

The system the log lives in is a `LogSystem` over a state `φ`, whose operations may fail with
the system's words. The wrapped client is a step function over its own state `σ`.
-/

namespace AcpBridge
namespace Cli

open Bridge Session

/-- What the notification log asks of the system whose state is `φ`: the time, opening a file
for appending (creating it when missing), writing a text to the open file, and flushing it. The
last three may fail, with the system's words. -/
structure LogSystem (φ : Type) where
  now : φ → Stamp
  openAppend : String → φ → φ × Except String Unit
  write : String → String → φ → φ × Except String Unit
  flush : String → φ → φ × Except String Unit

/-- A client that writes every notification to a log file before handing it to the client it
wraps. -/
structure LoggingClient (σ : Type) where
  inner : σ
  path : String
  enabled : Bool
  opened : Bool

namespace LoggingClient

variable {σ φ : Type}

/-- A logging client as it is made in a directory at a moment: its file named for the moment in
that directory, logging on when the directory could be made, the file not open yet. -/
def create (inner : σ) (dir : String) (stamp : Stamp) (made : Except FileFault Unit) :
    LoggingClient σ :=
  { inner, path := Path.join dir (stamp.compact ++ "_acp.jsonl"),
    enabled := made matches .ok _, opened := false }

/-- Write one entry to the log: open the file when it is not open, then write the entry's line
and flush. The first failure ends the entry; the file counts as open once opening succeeded.
Gives whether the file is open after, the system's state, and the outcome. -/
def writeEntry (sys : LogSystem φ) (c : LoggingClient σ) (n : Notification) (w : φ) :
    (Bool × φ) × Except String Unit :=
  let line := logLine (sys.now w) n.toRpc
  let opening := if c.opened then (w, .ok ()) else sys.openAppend c.path w
  match opening.2 with
  | .error e => ((c.opened, opening.1), .error e)
  | .ok () =>
    let written := sys.write c.path line opening.1
    match written.2 with
    | .error e => ((true, written.1), .error e)
    | .ok () =>
      let flushed := sys.flush c.path written.1
      ((true, flushed.1), flushed.2)

/-- Hand a notification over: when logging is on, write its entry, a failure only warned about;
then hand the notification to the wrapped client and answer what it answers. Gives the client
and the system after, the answer, and the warning if there is one. -/
def sessionUpdate (sys : LogSystem φ) (step : σ → Notification → σ × Except BridgeError Unit)
    (c : LoggingClient σ) (w : φ) (n : Notification) :
    (LoggingClient σ × φ) × Except BridgeError Unit × Option LogRecord :=
  let logged := if c.enabled then c.writeEntry sys n w else ((c.opened, w), .ok ())
  let answer := step c.inner n
  (({ c with inner := answer.1, opened := logged.1.1 }, logged.1.2), answer.2,
    match logged.2 with
    | .ok () => none
    | .error why => some (entryWarning why))

end LoggingClient

end Cli
end AcpBridge

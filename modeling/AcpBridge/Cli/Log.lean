import AcpBridge.Cli.Stamp

/-!
# The program's log

A replay writes log records on standard error. Each record is one line: the time, the level,
the message, then named values as `name=value`. Values are written as they are, controls
included, so a value that holds a line feed carries the record on into the next line. With
debugging on every record is written, otherwise only warnings.

The records of a replay:
- `ACP debug logging enabled path=<file>` (info), once the notification log's directory is
  made;
- `Failed to create ACP debug log directory dir=<dir> error=<why>` (warning), when it cannot
  be made;
- `Starting replay session_id=<id> streaming=<bool>` (debug), before the trace is read;
- `Failed to write ACP debug log entry error=<why>` (warning), for each entry of the
  notification log that cannot be written;
- `Replay finished events=<n> tokens=<n> turns=<n>` (debug), after a replay that succeeded.
-/

namespace AcpBridge
namespace Cli

inductive Level where
  | debug
  | info
  | warn
  deriving DecidableEq, Repr

def Level.label : Level → String
  | .debug => "DEBUG"
  | .info => " INFO"
  | .warn => " WARN"

/-- Whether records of a level are written: all of them with debugging on, else warnings
only. -/
def Level.written (debug : Bool) : Level → Bool
  | .warn => true
  | _ => debug

structure LogRecord where
  level : Level
  message : String
  fields : List (String × String) := []
  deriving DecidableEq, Repr

def LogRecord.line (time : Stamp) (r : LogRecord) : String :=
  time.logTime ++ " " ++ r.level.label ++ " " ++ r.message ++
    String.join (r.fields.map fun (k, v) => " " ++ k ++ "=" ++ v) ++ "\n"

def logText (debug : Bool) (time : Stamp) (rs : List LogRecord) : String :=
  String.join ((rs.filter (·.level.written debug)).map (·.line time))

def entryWarning (why : String) : LogRecord :=
  ⟨.warn, "Failed to write ACP debug log entry", [("error", why)]⟩

theorem warn_written (debug : Bool) : Level.warn.written debug = true := rfl

end Cli
end AcpBridge

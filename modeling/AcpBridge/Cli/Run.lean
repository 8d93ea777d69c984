import AcpBridge.Cli.Args
import AcpBridge.Cli.Log
import AcpBridge.Config.Read
import AcpBridge.Replay

/-!
# Running the program

`run` is the whole program over a `Host`, which answers what the program asks of the system:
what stands at a path, making directories, appending to files, standard input, the time, a
fresh session id and the user's home directory in the account database. The environment and
the working directory are given.

A replay loads the configuration (the global file, the file of the working directory, the
environment, then the command line), opens the notification log when asked for, reads the
trace, and replays it through a queue whose consumer writes each notification as a JSON-RPC
line on standard output. Each notification handed over is also an entry of the notification
log, when it is open: the entries are written one at a time in that order, each stamped when
it is written, and one that cannot be written is lost with a warning. The file and standard
output are apart, so writing the entries once the replay is done leaves both as writing each
just before its notification is handed over. Standard error holds the log records of the
replay; a failure ends the program with status 1 and its explanation after them: what failed,
then why. A
queue of more places than `Bridge.queueLimit` cannot be set up, and the program panics
before it reads the trace.
-/

namespace AcpBridge
namespace Cli

open Bridge Session

def uuidText (n : Nat) : String :=
  let digits := (List.range 32).reverse.map fun k => (n / Nat.pow 16 k) % 16
  let digits := digits.set 12 4
  let digits := digits.modify 16 fun d => d % 4 + 8
  let hex := digits.map fun d => Json.hexDigit d
  let part := fun (a b : Nat) => String.ofList ((hex.drop a).take (b - a))
  part 0 8 ++ "-" ++ part 8 12 ++ "-" ++ part 12 16 ++ "-" ++ part 16 20 ++ "-" ++ part 20 32

def environmentVars : List String :=
  ["HOME", "XDG_CONFIG_HOME", "XDG_DATA_HOME", sessionVar, Config.streamingVar,
   Config.debugLogVar, Config.namespaceVar]

/-- What the program asks of the system it runs on. -/
structure Host (m : Type → Type) where
  /-- What stands at a path, or why it cannot be reached. Paths are given as the program
  has them: a relative one is taken from the process's working directory. -/
  entry : String → m (Except FileFault Entry)
  makeDirs : String → m (Except FileFault Unit)
  append : String → String → m (Except FileFault Unit)
  input : m String
  now : m Stamp
  freshId : m String
  accountHome : m (Option String)

/-- How the program ended. -/
structure Exit where
  status : Nat
  out : String := ""
  err : String := ""
  deriving DecidableEq, Repr

def explain (context : String) (cause : Option String) : String :=
  "Error: " ++ context ++
    (match cause with
     | some c => "\n\nCaused by:\n    " ++ c.replace "\n" "\n    "
     | none => "") ++ "\n"

def globalConfigFile : String := "config.json"

def localConfigFile : String := "octo-acp.json"

/-- The user's home directory: `HOME` unless it is unset or empty, else the one the account
database gives. -/
def homeDir (lookup : String → Option String) (account : Option String) : Option String :=
  match lookup "HOME" with
  | some h => if h.isEmpty then account else some h
  | none => account

/-- The home directory of a user id in the text of an account database laid out as
`/etc/passwd`: the sixth field of the first line whose third field is the id. -/
def accountHomeIn (accounts : String) (uid : Nat) : Option String :=
  (accounts.splitOn "\n").findSome? fun line =>
    match line.splitOn ":" with
    | _ :: _ :: id :: _ :: _ :: home :: _ => if id.toNat? == some uid then some home else none
    | _ => none

/-- The user's configuration directory: `XDG_CONFIG_HOME` when absolute, else `.config` in
the home directory. -/
def configDir (lookup : String → Option String) (home : Option String) : Option String :=
  match lookup "XDG_CONFIG_HOME" with
  | some d => if Path.isAbsolute d then some d else inHome
  | none => inHome
where
  inHome := home.map (Path.join · ".config")

/-- The user's data directory: `XDG_DATA_HOME` when absolute, else `.local/share` in the home
directory, else the working directory. -/
def dataDir (lookup : String → Option String) (home : Option String) : String :=
  match lookup "XDG_DATA_HOME" with
  | some d => if Path.isAbsolute d then d else inHome
  | none => inHome
where
  inHome := match home with
    | some h => Path.join h ".local/share"
    | none => "."

def logLine (stamp : Stamp) (msg : Json) : String :=
  (Json.obj [("ts", .str stamp.rfc3339), ("dir", .str "<<<"), ("msg", msg)]).render ++ "\n"

variable {m : Type → Type} [Monad m]

/-- The configuration: the global file, the file of the working directory, the environment.
`home` is the user's home directory. -/
def loadConfig (host : Host m) (lookup : String → Option String) (home : Option String)
    (cwd : String) (workingDir : Option String) : m (Except ConfigError Config) := do
  let global ← match configDir lookup home with
    | some d => host.entry (Path.join (Path.join d Config.appDir) globalConfigFile)
    | none => pure (.error .notFound)
  let local_ ← host.entry (Path.join (workingDir.getD cwd) localConfigFile)
  pure (Config.load global local_ lookup)

def traceText (host : Host m) : Option String → m (Except String String)
  | none => .ok <$> host.input
  | some path => do
    match ← host.entry path with
    | .ok (.file t) => pure (.ok t)
    | .ok .directory => pure (.error (explain "Failed to read trace" (some FileFault.isDirectory.message)))
    | .error f => pure (.error (explain ("Failed to open trace " ++ path) (some f.message)))

structure LogFile where
  path : String
  stamp : Stamp

/-- Open the notification log in a directory: its file, named for the time, once the
directory is made. The empty directory is the working directory itself. -/
def openLog (host : Host m) (dir : String) : m (Except FileFault LogFile) := do
  let stamp ← host.now
  let made ← if dir.isEmpty then pure (.ok ()) else host.makeDirs dir
  pure (made.map fun () => ⟨Path.join dir (stamp.compact ++ "_acp.jsonl"), stamp⟩)

def openRecord (dir : String) : Except FileFault LogFile → LogRecord
  | .ok file => ⟨.info, "ACP debug logging enabled", [("path", file.path)]⟩
  | .error f =>
    ⟨.warn, "Failed to create ACP debug log directory", [("dir", dir), ("error", f.message)]⟩

def sessionOf (host : Host m) : Option String → m String
  | some s => pure s
  | none => host.freshId

def openLogIf (host : Host m) (config : Config) (dir : String) : m (Option (Except FileFault LogFile)) :=
  if config.debugLog then some <$> openLog host dir else pure none

/-- Write messages to the notification log one at a time, each stamped when it is written. A
message that cannot be written is lost and warned about; the next one is tried all the same.
Gives the warnings. -/
def writeEntries (host : Host m) (path : String) : List Json → m (List LogRecord)
  | [] => pure []
  | msg :: rest => do
    let stamp ← host.now
    let written ← host.append path (logLine stamp msg)
    let more ← writeEntries host path rest
    match written with
    | .ok () => pure more
    | .error f => pure (entryWarning f.message :: more)

def writeLog (host : Host m) : Option LogFile → Option (List Json) → m (List LogRecord)
  | some file, some entries => writeEntries host file.path entries
  | _, _ => pure []

def panicStatus : Nat := 101

/-- What a panic of the program's main thread writes on standard error: the message, then the
note on backtraces. The place of the panic and the number of the thread, which the first line
also names, are left out. -/
def panicText (message : String) : String :=
  "thread 'main' panicked:\n" ++ message ++
    "\nnote: run with `RUST_BACKTRACE=1` environment variable to display a backtrace\n"

/-- Replay a trace as the command line asks. Standard error holds the log records, then the
explanation of a failure. -/
def replay (host : Host m) (lookup : String → Option String) (cwd : String) (args : ReplayArgs) :
    m Exit := do
  let home := homeDir lookup (← host.accountHome)
  match ← loadConfig host lookup home cwd args.workingDir with
  | .error e => pure { status := 1, err := explain e.message none }
  | .ok config =>
    let config := config.withArgs args.noStreaming args.debug
    let session ← sessionOf host args.session
    let dir := config.resolvedLogDir (dataDir lookup home)
    let opened ← openLogIf host config dir
    match (Route.queue config.channelCapacity .alongside).refusal with
    | some why =>
      -- the queue is set up before the trace is read, and cannot be: the program panics
      let time ← host.now
      pure { status := panicStatus,
             err := logText config.debug time (opened.map (openRecord dir)).toList ++ panicText why }
    | none =>
      let start : LogRecord := ⟨.debug, "Starting replay",
        [("session_id", session), ("streaming", toString config.streamingEnabled)]⟩
      let records := (opened.map (openRecord dir)).toList ++ [start]
      let time ← host.now
      let logged := fun (more : List LogRecord) => logText config.debug time (records ++ more)
      let log := opened.bind fun o => match o with | .ok file => some file | .error _ => none
      match ← traceText host args.trace with
      | .error text => pure { status := 1, err := logged [] ++ text }
      | .ok text =>
        match parseTrace text with
        | .error e => pure { status := 1, err := logged [] ++ explain e.context (some e.cause.message) }
        | .ok items =>
          let client : Client := { log := log.map fun _ => [] }
          let line : Line := ⟨.queue config.channelCapacity .alongside, client, []⟩
          let (sub, outcome) := (Subscriber.ofConfig session config line true).replay items
          let line := sub.line.drain
          let warnings ← writeLog host log line.client.log
          let out := String.join (line.client.taken.map Notification.line)
          match outcome with
          | .ok sum =>
            let finished : LogRecord := ⟨.debug, "Replay finished",
              [("events", toString sum.events), ("tokens", toString sum.tokens),
               ("turns", toString sum.turns)]⟩
            pure { status := 0, out := out, err := logged (warnings ++ [finished]) }
          | .error e =>
            pure { status := 1, out := out, err := logged warnings ++ explain e.message none }

/-- The program: read the command line, then show a text, refuse, or replay. -/
def run (host : Host m) (lookup : String → Option String) (cwd : String) (argv : List String) :
    m Exit :=
  match parse lookup argv with
  | .show text => pure { status := 0, out := text }
  | .refuse text => pure { status := 2, err := text }
  | .replay args => replay host lookup cwd args

end Cli
end AcpBridge

/-!
# Commands and options

The program has one command, `replay`, which replays a trace as notifications. `help` shows
the help of a command, and `-h`/`--help` and `-V`/`--version` stand at the top.

The options of `replay`:
- `-t`/`--trace <TRACE>` names the trace file; without it the trace is standard input.
- `--session <SESSION>` names the session; without it the variable `OCTO_ACP_SESSION_ID`
  does.
- `--no-streaming` says that the trace was not streamed.
- `-d`/`--debug` turns debugging on.
- `-c`/`--cwd <WORKING_DIR>` names the working directory.

The options of `replay` other than `--help` form one group, the replay settings. Messages
name the whole group at once.
-/

namespace AcpBridge
namespace Cli

def programName : String := "octo-acp"

def version : String := "0.1.0"

def sessionVar : String := "OCTO_ACP_SESSION_ID"

structure ReplayArgs where
  trace : Option String := none
  session : Option String := none
  noStreaming : Bool := false
  debug : Bool := false
  workingDir : Option String := none
  deriving DecidableEq, Repr

inductive Opt where
  | trace
  | session
  | noStreaming
  | debug
  | cwd
  | help
  deriving DecidableEq, Repr

def Opt.inGroup (o : Opt) : Bool := o != .help

structure OptSpec where
  key : Opt
  short : Option Char
  long : String
  valueName : Option String
  about : String
  envVar : Option String := none
  path : Bool := false

def replayOpts : List OptSpec :=
  [⟨.trace, some 't', "trace", some "TRACE", "Trace file (reads stdin when omitted)", none, true⟩,
   ⟨.session, none, "session", some "SESSION", "Session ID to stamp on notifications",
     some sessionVar, false⟩,
   ⟨.noStreaming, none, "no-streaming", none,
     "Treat the trace as non-streaming (emit complete assistant messages)", none, false⟩,
   ⟨.debug, some 'd', "debug", none, "Enable debug logging", none, false⟩,
   ⟨.cwd, some 'c', "cwd", some "WORKING_DIR", "Working directory", none, true⟩,
   ⟨.help, some 'h', "help", none, "Print help", none, false⟩]

def Opt.spec (o : Opt) : Option OptSpec := replayOpts.find? (·.key == o)

def OptSpec.display (o : OptSpec) : String :=
  "--" ++ o.long ++ (match o.valueName with | some v => " <" ++ v ++ ">" | none => "")

def commands : List (String × String) :=
  [("replay", "Replay a JSONL agent trace as ACP session updates"),
   ("help", "Print this message or the help of the given subcommand(s)")]

def about : String := "Agent event to ACP notification bridge"

def ReplayArgs.set (a : ReplayArgs) (o : Opt) (v : String) : ReplayArgs :=
  match o with
  | .trace => { a with trace := some v }
  | .session => { a with session := some v }
  | .cwd => { a with workingDir := some v }
  | .noStreaming => { a with noStreaming := true }
  | .debug => { a with debug := true }
  | .help => a

end Cli
end AcpBridge

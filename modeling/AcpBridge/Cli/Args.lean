import AcpBridge.Cli.Refusal
import AcpBridge.Terminal.Strip
import AcpBridge.Text.Similarity

/-!
# Reading the command line

A long option takes its value after `=` or as the next argument. A short one takes the rest
of its cluster (after an optional `=`) or the next argument. An argument that starts with a
dash, a lone dash apart, is never a value. Flags take no value, no option may be given
twice, and a path may not be empty. After `--` every argument is a plain one, and `replay`
takes none.

An option whose value comes in the next argument is settled only when the next option is
met or the arguments end. Settling refuses it if no value came, if it was given before, or if
its path is empty. An unknown argument or a value given to a flag is refused in its place;
the pending option is settled first, and its own refusal is set aside.

The options met so far are kept in the order first met. A repeated option is dropped from
them, and an option whose path is empty stays. They make the usage line of two refusals:
- An unknown long option shows the options met, with the known option close to its name
  counted as met.
- A value given to a flag shows the options met before the pending one was settled, then
  that flag, with the group of replay settings when met.

Every other refusal shows the general usage line. Help and version texts are shown as soon
as their flag is met, after the pending option is settled.

What is shown is written for a terminal and then has its control sequences taken out, as
output to a pipe or a file is.
-/

namespace AcpBridge
namespace Cli

open Terminal

inductive Invocation where
  | replay (args : ReplayArgs)
  | show (text : String)
  | refuse (text : String)
  deriving DecidableEq, Repr

def plainRefusal (e : ArgError) : Refusal := ⟨e, replayUsage, true⟩

structure ReplayState where
  args : ReplayArgs := {}
  met : List Opt := []
  /-- Whether an option of the replay settings group was met. The group stays met when its
  option is dropped. -/
  group : Bool := false
  /-- An option whose value comes in a later argument, with that value once met. It is
  settled when the next option is met or the arguments end. -/
  pending : Option (OptSpec × Option String) := none
  plain : Bool := false

def ReplayState.start (s : ReplayState) (o : Opt) : ReplayState :=
  { s with met := if s.met.contains o then s.met else s.met ++ [o], group := s.group || o.inGroup }

/-- Take an option with its value, if one came; flags come with the empty value. The state
after a refusal tells which options were met: a repeated option is dropped, and an option
with an empty path stays. -/
def ReplayState.react (s : ReplayState) (o : OptSpec) : Option String → ReplayState × Option ArgError
  | none => (s, some (.valueRequired o.display))
  | some v =>
    if s.met.contains o.key then ({ s with met := s.met.erase o.key }, some (.repeated o.display))
    else
      let s := s.start o.key
      if o.path && v.isEmpty then (s, some (.valueRequired o.display))
      else ({ s with args := s.args.set o.key v }, none)

def ReplayState.settle (s : ReplayState) : ReplayState × Option ArgError :=
  match s.pending with
  | none => (s, none)
  | some (o, v) => { s with pending := none }.react o v

def ReplayState.checked : ReplayState × Option ArgError → Except ArgError ReplayState
  | (s, none) => .ok s
  | (_, some e) => .error e

theorem ReplayState.settle_of_none {s : ReplayState} (h : s.pending = none) :
    s.settle = (s, none) := by
  simp [ReplayState.settle, h]

theorem ReplayState.settle_of_missing {s : ReplayState} {o : OptSpec}
    (h : s.pending = some (o, none)) :
    s.settle.2 = some (.valueRequired o.display) := by
  simp [ReplayState.settle, h, ReplayState.react]

def ReplayState.meet (s : ReplayState) (o : OptSpec) (v : String) : Except ArgError ReplayState :=
  (ReplayState.checked s.settle).bind fun s => ReplayState.checked (s.react o (some v))

def ReplayState.await (s : ReplayState) (o : OptSpec) : Except ArgError ReplayState :=
  (ReplayState.checked s.settle).map ({ · with pending := some (o, none) })

inductive Stop where
  | show (text : String)
  | fault (r : Refusal)

def Stop.ofExcept {α : Type} : Except ArgError α → Except Stop α
  | .ok a => .ok a
  | .error e => .error (.fault (plainRefusal e))

def ReplayState.help (lookup : String → Option String) (s : ReplayState) : Except Stop ReplayState :=
  match s.settle.2 with
  | some e => .error (.fault (plainRefusal e))
  | none => .error (.show (replayHelp lookup))

/-- A long name that is no option of `replay`: the pending option is settled with its
refusal set aside, and a known option close to the name counts as met. -/
def ReplayState.unknownLong (s : ReplayState) (name : String) : Refusal :=
  let s := s.settle.1
  let similar := (Text.similarNames name (replayOpts.map OptSpec.long)).getLast?
  let s := match similar.bind fun l => replayOpts.find? (·.long == l) with
    | some o => s.start o.key
    | none => s
  ⟨.unknownArgument ("--" ++ name) (similar.map ("--" ++ ·)) none, replayUsageAfter s.met false,
    true⟩

def ReplayState.flagValue (s : ReplayState) (o : OptSpec) (v : String) : Refusal :=
  ⟨.unexpectedValue v o.display, replayUsageOf (s.met ++ [o.key]) s.group, true⟩

def shortCluster (lookup : String → Option String) : ReplayState → List Char → Except Stop ReplayState
  | s, [] => .ok s
  | s, c :: rest =>
    match replayOpts.find? (·.short == some c) with
    | none => .error (.fault (plainRefusal (.unknownArgument ("-" ++ String.singleton c) none none)))
    | some o =>
      if o.key == .help then s.help lookup
      else
        match o.valueName with
        | none =>
          match s.meet o "" with
          | .error e => .error (.fault (plainRefusal e))
          | .ok s => shortCluster lookup s rest
        | some _ =>
          match rest with
          | [] => Stop.ofExcept (s.await o)
          | '=' :: v => Stop.ofExcept (s.meet o (String.ofList v))
          | v => Stop.ofExcept (s.meet o (String.ofList v))

def replayArg (lookup : String → Option String) (s : ReplayState) (a : String) :
    Except Stop ReplayState :=
  if s.plain then .error (.fault (plainRefusal (.unknownArgument a none none)))
  else if a == "--" then .ok { s with plain := true }
  else
    match a.toList with
    | '-' :: '-' :: body =>
      let name := String.ofList (body.takeWhile (· != '='))
      let value := match body.dropWhile (· != '=') with
        | '=' :: v => some (String.ofList v)
        | _ => none
      match replayOpts.find? (·.long == name) with
      | none => .error (.fault (s.unknownLong name))
      | some o =>
        match o.valueName, value with
        | none, some v => .error (.fault (s.flagValue o v))
        | none, none => if o.key == .help then s.help lookup else Stop.ofExcept (s.meet o "")
        | some _, some v => Stop.ofExcept (s.meet o v)
        | some _, none => Stop.ofExcept (s.await o)
    | '-' :: c :: rest => shortCluster lookup s (c :: rest)
    | _ =>
      match s.pending with
      | some (o, none) => .ok { s with pending := some (o, some a) }
      | _ => .error (.fault (plainRefusal (.unknownArgument a none none)))

/-- Read the arguments of `replay`, settle the option still pending, and take the session
from the environment when it is not given. -/
def parseReplay (lookup : String → Option String) (args : List String) : Invocation :=
  let step := fun (acc : Except Stop ReplayState) (a : String) => acc.bind (replayArg lookup · a)
  match args.foldl step (.ok {}) with
  | .error (.show t) => .show t
  | .error (.fault r) => .refuse r.message
  | .ok s =>
    match s.settle with
    | (_, some e) => .refuse (plainRefusal e).message
    | (s, none) =>
      let a := s.args
      .replay { a with session := a.session.orElse fun _ => lookup sessionVar }

/-- The help a `help` command asks for: each name a command within the last. `help` has no
help flag of its own to point to. -/
def helpFor (lookup : String → Option String) : List String → Invocation
  | [] => .show topHelp
  | ["replay"] => .show (replayHelp lookup)
  | ["help"] => .show helpHelp
  | "replay" :: n :: _ => .refuse (Refusal.message ⟨.unknownCommand n [], replayUsage, true⟩)
  | "help" :: n :: _ => .refuse (Refusal.message ⟨.unknownCommand n [], helpUsage, false⟩)
  | n :: _ => .refuse (Refusal.message ⟨.unknownCommand n [], topUsage, true⟩)

def topRefusal (e : ArgError) (usage : String) : Invocation :=
  .refuse (Refusal.message ⟨e, usage, true⟩)

/-- A plain argument where a command must stand: after `--` a command's name is refused with
the advice to drop the `--`; otherwise the name is unknown, with the commands close to it. -/
def misplacedCommand (escaped : Bool) (a : String) : Invocation :=
  let names := commands.map (·.1)
  if escaped && names.contains a then topRefusal (.needlessEscape a) topUsage
  else topRefusal (.unknownCommand a (Text.similarNames a names)) topUsage

/-- A long option at the top, before any command. An unknown name close to a top option
counts that option as met; one close only to an option of `replay` named later gets a tip
for it. -/
def topLong (name : String) (value : Option String) (rest : List String) : Invocation :=
  match name, value with
  | "help", none => .show topHelp
  | "version", none => .show versionText
  | "help", some v => topRefusal (.unexpectedValue v "--help") (topUsageAfter (some "--help"))
  | "version", some v =>
    topRefusal (.unexpectedValue v "--version") (topUsageAfter (some "--version"))
  | _, _ =>
    let similar := (Text.similarNames name ["help", "version"]).getLast?
    let inCommand : Option (String × String) :=
      match similar with
      | some _ => none
      | none =>
        if rest.contains "replay" then
          (Text.similarNames name (replayOpts.map OptSpec.long)).getLast?.map
            fun o => ("replay", "--" ++ o)
        else none
    let similar := similar.map ("--" ++ ·)
    topRefusal (.unknownArgument ("--" ++ name) similar inCommand) (topUsageAfter similar)

/-- Read the command line from the top; `escaped` says that `--` was met, after which
every argument is a plain one. -/
def parseTop (lookup : String → Option String) (escaped : Bool) : List String → Invocation
  | [] => .refuse topHelp
  | a :: rest =>
    if escaped then misplacedCommand true a
    else if a == "replay" then parseReplay lookup rest
    else if a == "help" then helpFor lookup rest
    else if a == "--" then parseTop lookup true rest
    else
      match a.toList with
      | '-' :: '-' :: body =>
        let name := String.ofList (body.takeWhile (· != '='))
        let value := match body.dropWhile (· != '=') with
          | '=' :: v => some (String.ofList v)
          | _ => none
        topLong name value rest
      | '-' :: c :: _ =>
        if c == 'h' then .show topHelp
        else if c == 'V' then .show versionText
        else topRefusal (.unknownArgument ("-" ++ String.singleton c) none none) topUsage
      | _ => misplacedCommand false a

def Invocation.unstyled : Invocation → Invocation
  | .replay a => .replay a
  | .show t => .show (strip t)
  | .refuse t => .refuse (strip t)

/-- Read the command line, given the arguments after the program's name and the
environment. -/
def parse (lookup : String → Option String) (args : List String) : Invocation :=
  (parseTop lookup false args).unstyled

end Cli
end AcpBridge

import AcpBridge.Cli.Options
import AcpBridge.Terminal.Style

/-!
# Help texts and usage lines

A help text shows what a command does, its usage line, then tables of its commands and
options. A table row has the name column padded to the widest name, two spaces, then the
text. A line feed within a text is followed by the indent of the text column. Texts are
never wrapped.

A usage line starts with the command's name. The general line follows it with the
command's shape: `[OPTIONS]`, `<COMMAND>` or `[COMMAND]...`. A refusal can instead show a
usage line that lists options met on the command line, each with the name of its value.
Such a line lists the group of replay settings, when met, as all its options at once,
after the options outside it.

The texts carry the styles a terminal shows; `Terminal.strip` takes them out.
-/

namespace AcpBridge
namespace Cli

open Terminal

def spaces (n : Nat) : String := String.ofList (List.replicate n ' ')

structure Row where
  name : String
  width : Nat
  text : String

/-- The rows of a help table, each line ended by a line feed. Names are padded to the widest
one, and a line feed within a text is followed by the indent of the text column. -/
def table (rows : List Row) : String :=
  let width := (rows.map (·.width)).foldl max 0
  let indent := "\n" ++ spaces (width + 4)
  String.join (rows.map fun r =>
    "  " ++ r.name ++ spaces (width - r.width) ++ "  " ++ r.text.replace "\n" indent ++ "\n")

def heading (title : String) : String := Style.header.paint title ++ "\n"

def usageLine (line : String) : String := Style.usage.paint "Usage:" ++ " " ++ line

def topUsage : String := Style.literal.paint programName ++ " <COMMAND>"

def replayUsage : String := Style.literal.paint (programName ++ " replay") ++ " [OPTIONS]"

def helpUsage : String := Style.literal.paint (programName ++ " help") ++ " [COMMAND]..."

def OptSpec.usage (o : OptSpec) : String :=
  Style.literal.paint ("--" ++ o.long) ++
    (match o.valueName with | some v => " <" ++ v ++ ">" | none => "")

def groupUsage : String :=
  "<" ++ "|".intercalate ((replayOpts.filter (·.key.inGroup)).map OptSpec.display) ++ ">"

/-- The usage line of `replay` that lists options met, in the order met and each once. When
the settings group is met too, its options are left out and the group comes last. -/
def replayUsageOf (met : List Opt) (group : Bool) : String :=
  let shown := (met.eraseDups.filter fun o => !(group && o.inGroup)).filterMap Opt.spec
  let items := shown.map OptSpec.usage ++ (if group then [groupUsage] else [])
  Style.literal.paint (programName ++ " replay") ++ String.join (items.map (" " ++ ·))

def replayUsageAfter (met : List Opt) (group : Bool) : String :=
  if met.isEmpty && !group then replayUsage else replayUsageOf met group

/-- The usage line of the program for a refusal after a top option was met: that option,
then the command. -/
def topUsageAfter (met : Option String) : String :=
  match met with
  | some o => Style.literal.paint programName ++ " " ++ Style.literal.paint o ++ " <COMMAND>"
  | none => topUsage

def literalRow (name text : String) : Row := ⟨Style.literal.paint name, name.length, text⟩

def topHelp : String :=
  about ++ "\n\n" ++ usageLine topUsage ++ "\n\n" ++ heading "Commands:" ++
    table (commands.map fun (n, t) => literalRow n t) ++ "\n" ++ heading "Options:" ++
    table [⟨Style.literal.paint "-h" ++ ", " ++ Style.literal.paint "--help", 10, "Print help"⟩,
      ⟨Style.literal.paint "-V" ++ ", " ++ Style.literal.paint "--version", 13, "Print version"⟩]

/-- The row of an option in the help of `replay`; `lookup` gives the variable shown beside
it. -/
def OptSpec.row (lookup : String → Option String) (o : OptSpec) : Row :=
  let short := match o.short with
    | some c => Style.literal.paint ("-" ++ String.singleton c) ++ ", "
    | none => "    "
  let env := match o.envVar with
    | some v => " [env: " ++ v ++ "=" ++ (lookup v).getD "" ++ "]"
    | none => ""
  ⟨short ++ o.usage, 4 + o.display.length, o.about ++ env⟩

def replayHelp (lookup : String → Option String) : String :=
  "Replay a JSONL agent trace as ACP session updates\n\n" ++ usageLine replayUsage ++ "\n\n" ++
    heading "Options:" ++ table (replayOpts.map (OptSpec.row lookup))

def helpHelp : String :=
  "Print this message or the help of the given subcommand(s)\n\n" ++ usageLine helpUsage ++
    "\n\n" ++ heading "Arguments:" ++
    table [⟨"[COMMAND]...", 12, "Print help for the subcommand(s)"⟩]

def versionText : String := programName ++ " " ++ version ++ "\n"

theorem replayUsageAfter_nil : replayUsageAfter [] false = replayUsage := rfl

end Cli
end AcpBridge

import AcpBridge.Cli.Help

/-!
# Refusals of a command line

A refused command line gets a message:
- `error:` and what is wrong, with the faulty input quoted;
- tips, such as a known name close to a misspelt one;
- the usage line, except when a value is missing;
- a pointer to `--help`, for commands that have that flag. `help` has none and ends its
  message after the usage line.

The message carries the styles a terminal shows. Faulty input always stands between the
invalid style and its reset, so whatever controls it holds end at that reset.
-/

namespace AcpBridge
namespace Cli

open Terminal

inductive ArgError where
  | unknownArgument (arg : String) (similar : Option String) (inCommand : Option (String × String))
  | unknownCommand (name : String) (similar : List String)
  | needlessEscape (name : String)
  | valueRequired (option : String)
  | repeated (option : String)
  | unexpectedValue (value option : String)
  deriving DecidableEq, Repr

def offered (name : String) : String := "'" ++ Style.valid.paint name ++ "'"

def faulty (input : String) : String := "'" ++ Style.invalid.paint input ++ "'"

def ArgError.words : ArgError → String × List String
  | .unknownArgument a similar inCommand =>
    ("unexpected argument " ++ faulty a ++ " found",
      (similar.map fun s => "a similar argument exists: " ++ offered s).toList ++
      (inCommand.map fun (c, o) => offered (c ++ " " ++ o) ++ " exists").toList)
  | .unknownCommand n similar =>
    ("unrecognized subcommand " ++ faulty n,
      if similar.isEmpty then []
      else
        [(if similar.length == 1 then "a similar subcommand exists: "
          else "some similar subcommands exist: ") ++ ", ".intercalate (similar.map offered)])
  | .needlessEscape n =>
    ("unexpected argument " ++ faulty n ++ " found",
      ["subcommand " ++ offered n ++ " exists; to use it, remove the " ++ faulty "--" ++
        " before it"])
  | .valueRequired o =>
    ("a value is required for '" ++ Style.literal.paint o ++ "' but none was supplied", [])
  | .repeated o => ("the argument " ++ faulty o ++ " cannot be used multiple times", [])
  | .unexpectedValue v o =>
    ("unexpected value " ++ faulty v ++ " for '" ++ Style.literal.paint o ++
      "' found; no more were expected", [])

def ArgError.showsUsage : ArgError → Bool
  | .valueRequired _ => false
  | _ => true

/-- A refusal: the fault, the usage line of the command refused, and whether that command
has a help flag to point to. -/
structure Refusal where
  error : ArgError
  usage : String
  helpFlag : Bool := true

def Refusal.message (r : Refusal) : String :=
  let (head, tips) := r.error.words
  let tipText := if tips.isEmpty then "" else
    "\n\n" ++ "\n".intercalate (tips.map fun t => "  " ++ Style.valid.paint "tip:" ++ " " ++ t)
  let usageText := if r.error.showsUsage then "\n\n" ++ usageLine r.usage else ""
  let tryHelp := if r.helpFlag then
      "\n\nFor more information, try '" ++ Style.literal.paint "--help" ++ "'.\n"
    else "\n"
  Style.error.paint "error:" ++ " " ++ head ++ tipText ++ usageText ++ tryHelp

theorem valueRequired_showsUsage (o : String) : (ArgError.valueRequired o).showsUsage = false :=
  rfl

end Cli
end AcpBridge

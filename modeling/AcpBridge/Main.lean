import AcpBridge.Cli.Run

/-!
# The executable

`main` runs `Cli.run` against the real system: files through the file system, the
environment variables the program reads, standard input, the clock of the kernel, a random
session id, and the account database for the user's home. It prints what the program wrote
and ends with its status.
-/

namespace AcpBridge
namespace Main

def faultOf : IO.Error → FileFault
  | .noFileOrDirectory .. => .notFound
  | .inappropriateType _ 21 _ => .isDirectory
  | .inappropriateType _ 20 _ => .notDirectory
  | .alreadyExists .. => .alreadyExists
  | .permissionDenied .. => .permissionDenied
  | .invalidArgument _ 36 _ => .nameTooLong
  | _ => .notFound

def entry (p : String) : IO (Except FileFault Entry) := do
  if let some f := pathRefusal p then return .error f
  try
    return .ok (.file (← IO.FS.readFile p))
  catch e =>
    match faultOf e with
    | .isDirectory => return .ok .directory
    | f => return .error f

/-- Make a directory and those above it. -/
def makeDirs (p : String) : IO (Except FileFault Unit) := do
  if let some f := pathRefusal p then return .error f
  try
    IO.FS.createDirAll p
    return .ok ()
  catch e => return .error (faultOf e)

def append (p text : String) : IO (Except FileFault Unit) := do
  if let some f := pathRefusal p then return .error f
  try
    let h ← IO.FS.Handle.mk p .append
    h.putStr text
    h.flush
    return .ok ()
  catch e => return .error (faultOf e)

def numberAfter (word text : String) : Option Nat :=
  (text.splitOn "\n").findSome? fun l =>
    match l.splitOn " " with
    | w :: n :: _ => if w == word then n.toNat? else none
    | _ => none

def now : IO Cli.Stamp := do
  try
    let stat ← IO.FS.readFile "/proc/stat"
    let up ← IO.FS.readFile "/proc/uptime"
    let boot := (numberAfter "btime" stat).getD 0
    let uptime := ((up.splitOn " ").head?.getD "").splitOn "."
    let upSeconds := (uptime.head?.bind String.toNat?).getD 0
    -- the uptime's fraction, read as nanoseconds
    let fraction := ((uptime.drop 1).head?.getD "").trimAscii.toString
    let nanos := (fraction.toNat?.getD 0) * Nat.pow 10 (9 - fraction.length)
    return Cli.Stamp.ofEpoch (boot + upSeconds) nanos
  catch _ => return Cli.Stamp.ofEpoch 0 0

def freshId : IO String := do
  IO.setRandSeed (← IO.monoNanosNow)
  let n ← IO.rand 0 (Nat.pow 2 128 - 1)
  return Cli.uuidText n

/-- The home directory of the user running the program, from the user id the kernel reports
and the account database. -/
def accountHome : IO (Option String) := do
  try
    let status ← IO.FS.readFile "/proc/self/status"
    let uid := (status.splitOn "\n").findSome? fun l =>
      if l.startsWith "Uid:" then
        ((l.drop 4).trimAscii.toString.splitOn "\t").head?.bind String.toNat?
      else none
    match uid with
    | some u => return Cli.accountHomeIn (← IO.FS.readFile "/etc/passwd") u
    | none => return none
  catch _ => return none

def host : Cli.Host IO where
  entry := entry
  makeDirs := makeDirs
  append := append
  input := do (← IO.getStdin).readToEnd
  now := now
  freshId := freshId
  accountHome := accountHome

end Main
end AcpBridge

open AcpBridge in
def main (args : List String) : IO UInt32 := do
  let mut vars : List (String × String) := []
  for v in Cli.environmentVars do
    if let some x ← IO.getEnv v then
      vars := vars ++ [(v, x)]
  let lookup := fun (k : String) => (vars.find? (·.1 == k)).map (·.2)
  let cwd := toString (← IO.currentDir)
  let exit ← Cli.run Main.host lookup cwd args
  let out ← IO.getStdout
  out.putStr exit.out
  out.flush
  let err ← IO.getStderr
  err.putStr exit.err
  err.flush
  return exit.status.toUInt32

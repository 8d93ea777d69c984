/-!
# Files as the bridge sees them

The bridge reads a few files: configuration files and a trace; it may create a directory and
append to a log file in it. What stands at a path is an `Entry`: a file with its text, or a
directory. Reading a path fails when nothing is there, when a part of it above is a file, or
(for reading text) when a directory is there; the failure reads as the operating system
words it.

Paths are texts with `/` between their parts. A relative path is taken from a working
directory. `Disk` is a tree of entries held in memory, keyed by normalised absolute path. A
path is read the way the operating system reads it, part by part: `..` after a part that is
missing or a file fails, even where dropping both parts would name something. Directories
are made the same way, one at a time, the missing ones above first. The system refuses a
path with a NUL byte or of `pathMax` bytes or more as it is given, and a part longer than
`nameMax` bytes once the walk reaches it. Some directories are the system's own (`sealed`):
nothing can be made in them.
-/

namespace AcpBridge

inductive Entry where
  | file (content : String)
  | directory
  deriving DecidableEq, Repr

inductive FileFault where
  | notFound
  | isDirectory
  | notDirectory
  | alreadyExists
  | permissionDenied
  | nameTooLong
  | nulByte
  deriving DecidableEq, Repr

def FileFault.message : FileFault → String
  | .notFound => "No such file or directory (os error 2)"
  | .isDirectory => "Is a directory (os error 21)"
  | .notDirectory => "Not a directory (os error 20)"
  | .alreadyExists => "File exists (os error 17)"
  | .permissionDenied => "Permission denied (os error 13)"
  | .nameTooLong => "File name too long (os error 36)"
  | .nulByte => "file name contained an unexpected NUL byte"

/-- The text of what stands at a path. -/
def Entry.read : Option Entry → Except FileFault String
  | some (.file content) => .ok content
  | some .directory => .error .isDirectory
  | none => .error .notFound

/-- Whether a failure to reach a path means that nothing is there, as a check for existence
sees it: every failure to look the path up does. -/
def FileFault.isAbsence : FileFault → Bool
  | .notFound | .notDirectory | .nameTooLong | .permissionDenied | .nulByte => true
  | .isDirectory | .alreadyExists => false

def pathMax : Nat := 4096

def nameMax : Nat := 255

def tooLongName (part : String) : Bool := nameMax < part.utf8ByteSize

/-- Why a path is refused as it is given, before anything is looked up: a NUL byte in it,
else a length of `pathMax` bytes or more. -/
def pathRefusal (path : String) : Option FileFault :=
  if path.contains '\x00' then some .nulByte
  else if pathMax ≤ path.utf8ByteSize then some .nameTooLong
  else none

@[simp] theorem Entry.read_file (s : String) : Entry.read (some (.file s)) = .ok s := rfl

namespace Path

def isAbsolute (p : String) : Bool := p.startsWith "/"

/-- A path followed by another: an absolute second path stands alone, an empty first one
gives the second. -/
def join (base sub : String) : String :=
  if isAbsolute sub then sub
  else if base.isEmpty || base.endsWith "/" then base ++ sub
  else base ++ "/" ++ sub

/-- A path taken from a working directory; the empty path names nothing. -/
def resolve (cwd p : String) : String := if p.isEmpty then "" else join cwd p

/-- The parts of a path, with `.` and empty parts dropped and `..` going one part up (never
above the root). -/
def parts (p : String) : List String :=
  ((p.splitOn "/").foldl (fun acc part =>
    if part.isEmpty || part == "." then acc
    else if part == ".." then acc.drop 1
    else part :: acc) []).reverse

def ofParts (ps : List String) : String := "/" ++ "/".intercalate ps

/-- The normal form of an absolute path: `/` and its parts. -/
def normalize (p : String) : String := ofParts (parts p)

def parents (p : String) : List String :=
  let ps := parts p
  (List.range (ps.length - 1)).map fun k => "/" ++ "/".intercalate (ps.take (k + 1))

@[simp] theorem join_absolute (base sub : String) (h : isAbsolute sub = true) :
    join base sub = sub := by simp [join, h]

end Path

/-- A tree of files and directories held in memory, keyed by normal absolute path; the root
is always there. -/
structure Disk where
  entries : List (String × Entry) := []
  /-- Directories the system fills itself, by normal path, each with the failure met when
  something new is made in it. -/
  sealed : List (String × FileFault) := []

namespace Disk

def at? (d : Disk) (p : String) : Option Entry :=
  if p == "/" then some .directory else (d.entries.find? (·.1 == p)).map (·.2)

/-- Walk the parts of a path down from a directory, given by its parts, as the operating
system resolves a path: `.` stays, `..` goes one part up (the root is its own parent), and a
name goes into the directory of that name. A name longer than the system takes fails as too
long, a missing part as not found, and a file with parts still after it as not a directory.
The result is the reached entry's parts. -/
def walk (d : Disk) : List String → List String → Except FileFault (List String)
  | here, [] => .ok here
  | here, part :: rest =>
    if part == "." then d.walk here rest
    else if part == ".." then d.walk here.dropLast rest
    else if tooLongName part then .error .nameTooLong
    else
      let next := here ++ [part]
      match d.at? (Path.ofParts next) with
      | none => .error .notFound
      | some (.file _) => if rest.isEmpty then .ok next else .error .notDirectory
      | some .directory => d.walk next rest

/-- What stands at an absolute path, or why it cannot be reached; nothing is at the empty
path, and a path that ends with `/` names a directory. -/
def find (d : Disk) (path : String) : Except FileFault Entry :=
  if path.isEmpty then .error .notFound else
  match d.walk [] ((path.splitOn "/").filter (!·.isEmpty)) with
  | .error f => .error f
  | .ok parts =>
    match d.at? (Path.ofParts parts) with
    | none => .error .notFound
    | some (.file t) => if path.endsWith "/" then .error .notDirectory else .ok (.file t)
    | some .directory => .ok .directory

def put (d : Disk) (p : String) (e : Entry) : Disk :=
  { d with entries := (d.entries.filter (·.1 != p)) ++ [(p, e)] }

def sealedBy (d : Disk) (dir : String) : Option FileFault :=
  (d.sealed.find? (·.1 == dir)).map (·.2)

def isDir (d : Disk) (path : String) : Bool :=
  match d.find path with
  | .ok .directory => true
  | _ => false

/-- Make one directory at an absolute path, as the operating system does: the parts above it
must lead to a directory, and nothing may stand at it yet. A last part `.` or `..` names a
directory that is already there. -/
def makeDir (d : Disk) (path : String) : Except FileFault Disk :=
  let parts := (path.splitOn "/").filter (!·.isEmpty)
  match parts.getLast? with
  | none => .error .alreadyExists
  | some last =>
    match d.walk [] parts.dropLast with
    | .error f => .error f
    | .ok above =>
      match d.at? (Path.ofParts above) with
      | some .directory =>
        if last == "." || last == ".." then .error .alreadyExists
        else if tooLongName last then .error .nameTooLong
        else
          let target := Path.ofParts (above ++ [last])
          match d.at? target, d.sealedBy (Path.ofParts above) with
          | some _, _ => .error .alreadyExists
          | none, some f => .error f
          | none, none => .ok (d.put target .directory)
      | _ => .error .notDirectory

def parentOf (path : String) : Option String :=
  let parts := (path.splitOn "/").filter fun p => !p.isEmpty && p != "."
  if parts.isEmpty then none else some (Path.ofParts parts.dropLast)

/-- Make a directory and the ones above it that are missing, the way the standard library
does: try the directory; when something above it is missing, make the path one part up
first and try again. Any other failure is forgiven when a directory stands at the path.
`fuel` bounds how far up it goes. -/
def makeDirsUpTo : Nat → Disk → String → Except FileFault Disk
  | fuel, d, path =>
    match d.makeDir path with
    | .ok d' => .ok d'
    | .error .notFound =>
      match fuel, parentOf path with
      | fuel + 1, some up =>
        match makeDirsUpTo fuel d up with
        | .error e => .error e
        | .ok d' =>
          match d'.makeDir path with
          | .ok d'' => .ok d''
          | .error e => if d'.isDir path then .ok d' else .error e
      | _, _ => .error .notFound
    | .error e => if d.isDir path then .ok d else .error e

/-- Make a directory at an absolute path and the ones above it that are missing. -/
def makeDirs (d : Disk) (path : String) : Except FileFault Disk :=
  makeDirsUpTo ((path.splitOn "/").length + 1) d path

/-- Add text at the end of a file, creating it in an existing directory that is not
sealed. -/
def append (d : Disk) (path text : String) : Except FileFault Disk :=
  let p := Path.normalize path
  let above := (Path.parents p).getLast?
  match above.map d.find with
  | some (.error f) => .error f
  | some (.ok (.file _)) => .error .notDirectory
  | _ =>
    match d.at? p, d.sealedBy (above.getD "/") with
    | some .directory, _ => .error .isDirectory
    | some (.file old), _ => .ok (d.put p (.file (old ++ text)))
    | none, some f => .error f
    | none, none => .ok (d.put p (.file text))

/-- A path as a program gives it, taken from the working directory `cwd`, unless it is
refused before any part of it is looked up. -/
def resolveFrom (cwd path : String) : Except FileFault String :=
  match pathRefusal path with
  | some f => .error f
  | none => .ok (Path.resolve cwd path)

def filesEndingWith (d : Disk) (suffix : String) : List (String × String) :=
  let found := d.entries.filterMap fun (p, e) =>
    match e with
    | .file t => if p.endsWith suffix then some (p, t) else none
    | .directory => none
  found.mergeSort fun a b => decide (a.1 ≤ b.1)

end Disk

end AcpBridge

import AcpBridge.Config
import AcpBridge.Files
import AcpBridge.Bridge.Error
import AcpBridge.Json.Read
import AcpBridge.Json.Decode

/-!
# Reading a configuration

A configuration file is a JSON object whose known members set fields, or an array that
gives the fields in declaration order; a field not given keeps its default and unknown
members are skipped. A field given twice is refused at its second key. A faulty file is
refused with the reader's message and where in the text it stands.

A configuration held as a JSON value decodes the same way, without positions.

`load` layers the global file, the file of the working directory and the environment over
the defaults.
-/

namespace AcpBridge
namespace Config

/-- A field of a configuration file: its name and how its value is read into a
configuration. -/
structure Setting where
  name : String
  read : Nat → Reader.ReadM (Config → Config)

def settings : List Setting :=
  [⟨"streaming_enabled", fun fuel => do
      let b ← Reader.boolean fuel
      pure fun c => { c with streamingEnabled := b }⟩,
   ⟨"metrics_namespace", fun fuel => do
      let s ← Reader.text fuel "a string"
      pure fun c => { c with metricsNamespace := s }⟩,
   ⟨"channel_capacity", fun fuel => do
      let n ← Reader.unsigned fuel (Nat.pow 2 64 - 1) "usize"
      pure fun c => { c with channelCapacity := n }⟩,
   ⟨"debug", fun fuel => do
      let b ← Reader.boolean fuel
      pure fun c => { c with debug := b }⟩,
   ⟨"debug_log", fun fuel => do
      let b ← Reader.boolean fuel
      pure fun c => { c with debugLog := b }⟩,
   ⟨"debug_log_dir", fun fuel => do
      let d ← Reader.optional (Reader.text fuel "path string")
      pure fun c => { c with debugLogDir := d }⟩]

/-- The members of a configuration object, up to its closing brace; `seen` holds the fields
already set. -/
def readMembers : Nat → List String → Config → Bool → Reader.ReadM Config
  | 0, _, _, _ => Reader.failHere .eofWhileParsingObject
  | fuel + 1, seen, c, first => do
    match ← Reader.nextKey fuel first with
    | none => pure c
    | some k =>
      match settings.find? (·.name == k) with
      | some s =>
        if seen.contains k then Reader.rejectInObject (.duplicateField k)
        else do
          Reader.colon
          let set ← s.read fuel
          readMembers fuel (k :: seen) (set c) false
      | none => do
        Reader.colon
        Reader.skipValue fuel
        readMembers fuel seen c false

/-- The elements of a configuration array, one per field in order, up to its closing bracket
or the last field. -/
def readItems : Nat → List Setting → Config → Bool → Reader.ReadM Config
  | _, [], c, _ => pure c
  | 0, _, _, _ => Reader.failHere .eofWhileParsingList
  | fuel + 1, s :: rest, c, first => do
    if ← Reader.nextItem first then do
      let set ← s.read fuel
      readItems fuel rest (set c) false
    else pure c

def typeName : String := "struct BridgeConfig"

def readDocument (fuel : Nat) : Reader.ReadM Config := do
  match ← Reader.blank with
  | none => Reader.failNext .eofWhileParsingValue
  | some '{' => do
    Reader.bump
    let c ← readMembers fuel [] defaults true
    Reader.endObject
    pure c
  | some '[' => do
    Reader.bump
    let c ← readItems fuel settings defaults true
    Reader.endArray
    pure c
  | some _ => Reader.invalidType fuel typeName

/-- The configuration a file's text holds. -/
def ofText (s : String) : Except ConfigError Config :=
  (Reader.run s readDocument).mapError (fun e => .invalid e.message)

def ofEntry : Except FileFault Entry → Except ConfigError (Option Config)
  | .error f => if f.isAbsence then .ok none else .error (.file f.message)
  | .ok e =>
    match Entry.read (some e) with
    | .ok s => some <$> ofText s
    | .error f => .error (.file f.message)

/-- The configuration from the global file, the working directory's file and the
environment, in that order over the defaults. -/
def load (global workingDir : Except FileFault Entry) (lookup : String → Option String) :
    Except ConfigError Config := do
  let g ← ofEntry global
  let w ← ofEntry workingDir
  pure (layered (g.toList ++ w.toList) lookup)

def decode : Decoder Config :=
  (fun streaming ns capacity debug debugLog dir =>
      ({ streamingEnabled := streaming, metricsNamespace := ns, channelCapacity := capacity,
         debug := debug, debugLog := debugLog, debugLogDir := dir } : Config)) <$>
    Fields.withDefault "streaming_enabled" Decode.bool defaults.streamingEnabled <*>
    Fields.withDefault "metrics_namespace" Decode.string defaults.metricsNamespace <*>
    Fields.withDefault "channel_capacity" Decode.usize defaults.channelCapacity <*>
    Fields.withDefault "debug" Decode.bool false <*>
    Fields.withDefault "debug_log" Decode.bool false <*>
    Fields.maybe "debug_log_dir" Decode.path |>.decode typeName

end Config
end AcpBridge

import AcpBridge.Json.Basic
import AcpBridge.Text.Blank
import AcpBridge.Metrics.Status
import AcpBridge.Files

/-!
# Bridge configuration

What the bridge is told: whether assistant text streams token by token, the namespace of
the metrics key, how many notifications may wait for the client, whether to log at debug
level, and whether and where to keep a log of every notification sent.

## Layering

A configuration is built from the defaults, then a global file, then a file in the working
directory, then the environment, then the command line. A file sets a value only where its
value is not the default (`merge`), so a later file cannot turn a value back to its default;
`debug` and the notification log only turn on this way. The environment reads its flags
leniently (`parseFlag`), and the command line can only turn streaming off and debugging on.
-/

namespace AcpBridge

/-- The settings of the bridge. -/
structure Config where
  streamingEnabled : Bool := true
  metricsNamespace : String := "octo-code.dev"
  channelCapacity : Nat := 256
  debug : Bool := false
  debugLog : Bool := false
  debugLogDir : Option String := none
  deriving DecidableEq, Repr, Inhabited

namespace Config

def defaults : Config := {}

def appDir : String := "octo-acp"

def metricsKey (c : Config) : String := Metrics.metricsKey c.metricsNamespace

/-- Where the notification log goes: the directory set, or else `octo-acp/acp-debug` in the
user's data directory. -/
def resolvedLogDir (c : Config) (dataDir : String) : String :=
  c.debugLogDir.getD (Path.join (Path.join dataDir appDir) "acp-debug")

/-- Lay a file's configuration over another: a value counts only where it is not the
default, the two switches only turn on, and a log directory counts when set. -/
def merge (base overlay : Config) : Config where
  streamingEnabled :=
    if overlay.streamingEnabled != defaults.streamingEnabled then overlay.streamingEnabled
    else base.streamingEnabled
  metricsNamespace :=
    if overlay.metricsNamespace != defaults.metricsNamespace then overlay.metricsNamespace
    else base.metricsNamespace
  channelCapacity :=
    if overlay.channelCapacity != defaults.channelCapacity then overlay.channelCapacity
    else base.channelCapacity
  debug := base.debug || overlay.debug
  debugLog := base.debugLog || overlay.debugLog
  debugLogDir := overlay.debugLogDir.orElse fun _ => base.debugLogDir

@[simp] theorem merge_defaults (c : Config) : c.merge defaults = c := by
  cases c
  simp [merge, defaults]

/-- A flag of the environment: trimmed and in lower case, `1`, `true`, `yes`, `on` are on and
`0`, `false`, `no`, `off` are off; anything else is no answer. -/
def parseFlag (value : String) : Option Bool :=
  let v := String.ofList ((Text.trim value).toList.map Char.toLower)
  if v == "1" || v == "true" || v == "yes" || v == "on" then some true
  else if v == "0" || v == "false" || v == "no" || v == "off" then some false
  else none

def streamingVar : String := "OCTO_ACP_STREAMING"

def debugLogVar : String := "OCTO_ACP_DEBUG_LOG"

def namespaceVar : String := "OCTO_ACP_METRICS_NAMESPACE"

/-- Apply the environment: the two flags set their value when they read as a flag, and a
namespace that is not empty replaces the one set. -/
def withEnv (c : Config) (lookup : String → Option String) : Config :=
  let c :=
    match (lookup streamingVar).bind parseFlag with
    | some v => { c with streamingEnabled := v }
    | none => c
  let c :=
    match (lookup debugLogVar).bind parseFlag with
    | some v => { c with debugLog := v }
    | none => c
  match lookup namespaceVar with
  | some ns => if ns.isEmpty then c else { c with metricsNamespace := ns }
  | none => c

def withArgs (c : Config) (noStreaming debug : Bool) : Config :=
  { c with
    streamingEnabled := c.streamingEnabled && !noStreaming
    debug := c.debug || debug }

/-- A configuration from its files, each a configuration already read, and the environment. -/
def layered (files : List Config) (lookup : String → Option String) : Config :=
  (files.foldl merge defaults).withEnv lookup

def toJson (c : Config) : Json :=
  .obj [("streaming_enabled", .bool c.streamingEnabled),
        ("metrics_namespace", .str c.metricsNamespace),
        ("channel_capacity", Json.nat c.channelCapacity),
        ("debug", .bool c.debug),
        ("debug_log", .bool c.debugLog),
        ("debug_log_dir", Json.optStr c.debugLogDir)]

end Config

end AcpBridge

import AcpBridge.Json.Basic

/-!
# Failures of the bridge

A `BridgeError` is why a notification could not be built or sent: an internal failure with
a reason, a closed connection, a refused send or a value that could not be written. Every
failure is reported to the client as a JSON-RPC internal error, code `-32603`.

An `ErrorPolicy` says what an entry point does with a failure: the discrete event path
swallows it, the token path wraps it into an internal error with a reason of its own.

A `ConfigError` is why a configuration file could not be used: it could not be read, or its
text is not a configuration.
-/

namespace AcpBridge

inductive BridgeError where
  | internal (reason details : String)
  | connectionClosed
  | sendFailed (message : String)
  | serialization (message : String)
  deriving DecidableEq, Repr, Inhabited

namespace BridgeError

def code : Int := -32603

def message : BridgeError → String
  | .internal reason details => "Internal error: " ++ reason ++ ": " ++ details
  | .connectionClosed => "Connection closed"
  | .sendFailed m => "Send failed: " ++ m
  | .serialization m => "Serialization error: " ++ m

/-- The JSON-RPC error object of a failure. An internal failure carries its reason and
details apart; any other carries its text as details. -/
def toRpc (e : BridgeError) : Json :=
  let data :=
    match e with
    | .internal reason details => Json.obj [("reason", .str reason), ("details", .str details)]
    | other => Json.obj [("details", .str other.message)]
  .obj [("code", .num (.neg code)), ("message", .str "Internal error"), ("data", data)]

@[simp] theorem message_closed : connectionClosed.message = "Connection closed" := rfl

end BridgeError

inductive ErrorPolicy where
  | swallow
  | propagate (reason : String)
  deriving DecidableEq, Repr

namespace ErrorPolicy

def tokenStreamingReason : String := "Error during token streaming"

def tokenStreaming : ErrorPolicy := .propagate tokenStreamingReason

def apply : ErrorPolicy → Except BridgeError Unit → Except BridgeError Unit
  | _, .ok () => .ok ()
  | .swallow, .error _ => .ok ()
  | .propagate reason, .error e => .error (.internal reason e.message)

@[simp] theorem apply_ok (p : ErrorPolicy) : p.apply (.ok ()) = .ok () := by
  cases p <;> rfl

@[simp] theorem swallow_apply (r : Except BridgeError Unit) : swallow.apply r = .ok () := by
  cases r <;> rfl

end ErrorPolicy

inductive ConfigError where
  | file (message : String)
  | invalid (message : String)
  deriving DecidableEq, Repr

def ConfigError.message : ConfigError → String
  | .file m => "Config file error: " ++ m
  | .invalid m => "Invalid configuration: " ++ m

end AcpBridge

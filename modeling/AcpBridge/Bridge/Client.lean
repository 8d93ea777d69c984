import AcpBridge.Session.Update
import AcpBridge.Bridge.Error

/-!
# The client end of a connection

A `Client` takes session notifications. It may take only a number of them and refuse every
later one with a failure; until then it takes each one it is handed. A client may keep a
debug log: every notification handed to it is written there as its JSON-RPC message before
the client takes it or refuses it, so the log also holds refused ones.
-/

namespace AcpBridge
namespace Bridge

open Session

/-- The client end of a connection. -/
structure Client where
  /-- After taking this many notifications, refuse every later one. -/
  limit : Option Nat := none
  failure : BridgeError := .connectionClosed
  log : Option (List Json) := none
  handed : Nat := 0
  taken : List Notification := []

namespace Client

def accepts (c : Client) : Bool :=
  match c.limit with
  | some k => c.handed < k
  | none => true

/-- Hand a notification to the client: it is logged, then taken or refused. -/
def receive (c : Client) (n : Notification) : Client × Except BridgeError Unit :=
  let logged := { c with log := c.log.map (· ++ [n.toRpc]), handed := c.handed + 1 }
  if c.accepts then ({ logged with taken := c.taken ++ [n] }, .ok ())
  else (logged, .error c.failure)

def receiveAll (c : Client) (ns : List Notification) : Client :=
  ns.foldl (fun c n => (c.receive n).1) c

theorem receive_of_unlimited (c : Client) (n : Notification) (h : c.limit = none) :
    (c.receive n).2 = .ok () ∧ (c.receive n).1.taken = c.taken ++ [n] := by
  simp [receive, accepts, h]

@[simp] theorem handed_receive (c : Client) (n : Notification) :
    (c.receive n).1.handed = c.handed + 1 := by
  unfold receive; split <;> rfl

end Client

end Bridge
end AcpBridge

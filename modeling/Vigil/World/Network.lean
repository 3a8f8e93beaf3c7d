import Vigil.Config
import Vigil.Error
import Vigil.Node

/-!
A network that follows a script: which answer the next ping or connection gets, who is reached at
which address, and which calls wait until they are released. The script of a live network is that
every call waits for an answer from outside.
-/

namespace Vigil

/-- How a call ends. -/
inductive Outcome where
  | ok
  | timeout (limit : Option Duration)
  | disconnected (message : String)
  | rejected (rejection : Rejection)
  | remote (message : String)
deriving DecidableEq, Repr

structure ScriptedReply where
  outcome : Outcome := .ok
  /-- How many milliseconds the answer takes; a timeout without a delay takes as long as the call
  may take. -/
  delay : Nat := 0
  /-- Whom an error names, in place of the target. -/
  node : Option String := none
deriving DecidableEq, Repr

namespace ScriptedReply

/-- How long the answer takes, when the call may take `limit` milliseconds. -/
def time (r : ScriptedReply) (limit : Nat) : Nat :=
  match r.outcome with
  | .timeout _ => if r.delay = 0 then limit else r.delay
  | _ => r.delay

/-- What the caller gets. -/
def result (r : ScriptedReply) (target : String) (limit : Nat) : Except TransportError Unit :=
  let node := r.node.getD target
  match r.outcome with
  | .ok => .ok ()
  | .timeout given => .error (.timeout node (given.getD (.ofMillis limit)))
  | .disconnected message => .error (.disconnected node message)
  | .rejected rejection => .error (.rejected node rejection)
  | .remote message => .error (.remote node message)

end ScriptedReply

inductive Script where
  | reply (r : ScriptedReply)
  /-- Waits until someone releases the key. -/
  | hold (key : String)
deriving DecidableEq, Repr

/-- Who answers at an address, and how. -/
structure Served where
  address : String
  node : Node
  script : Script
deriving DecidableEq, Repr

/-- The script of a network. -/
structure Network where
  pings : List Script := []
  connects : List Script := []
  served : List Served := []
  live : Bool := false
  /-- How many calls a live network was given; each waits under its number. -/
  calls : Nat := 0
deriving DecidableEq, Repr

namespace Network

/-- The next step of a script; an empty script answers at once that all is well. -/
def next (scripts : List Script) : Script × List Script :=
  match scripts with
  | [] => (.reply {}, [])
  | script :: rest => (script, rest)

def unserve (n : Network) (address : String) : Network :=
  { n with served := n.served.filter (·.address != address) }

def serve (n : Network) (s : Served) : Network :=
  { n with served := s :: n.served.filter (·.address != s.address) }

def at? (n : Network) (address : String) : Option Served :=
  n.served.find? (·.address == address)

end Network

end Vigil

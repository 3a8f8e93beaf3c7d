import Vigil.Http.Status
import Vigil.Http.Url
import Vigil.Notice
import Vigil.Wire

/-!
A node's connections to others. An exchange that succeeds connects, one that finds nobody or
somebody else disconnects, and all others leave things as they are. Who listens is told of every
node that is lost.
-/

namespace Vigil

/-- Why the body of an answer could not be read. -/
inductive BodyFault where
  | timedOut
  | broken (message : String)
deriving DecidableEq, Repr

/-- What came of a request to another node. -/
inductive Exchange where
  | answered (status : Nat) (body : Except BodyFault (List Json.Letter))
  | timedOut
  /-- Nobody was there to take the request. -/
  | unreachable (message : String)
  | failed (message : String)

/-- The text with which a body of the wrong shape is reported. -/
def undecodable : String := "error decoding response body"

namespace Exchange

def ofBodyFault : BodyFault → Exchange
  | .timedOut => timedOut
  | .broken message => failed message

/-- What a body holds that is read as a message. -/
def bodyAs {α : Type} (read : Json → Read α) (body : Except BodyFault (List Json.Letter)) :
    Except Exchange α :=
  match body with
  | .error fault => .error (ofBodyFault fault)
  | .ok letters => (Json.readText read letters).mapError fun _ => failed undecodable

/-- The node that an exchange found, or the exchange that it amounts to. -/
def node (e : Exchange) : Except Exchange Node :=
  match e with
  | answered status body =>
    if Http.isFailure status then .error (failed ("HTTP status " ++ Http.statusText status))
    else bodyAs Node.ofJson body
  | e => .error e

/-- The error of an exchange that did not succeed. -/
def error (e : Exchange) (node : String) (limit : Duration) : TransportError :=
  match e with
  | timedOut => .timeout node limit
  | unreachable message => .disconnected node message
  | failed message => .remote node message
  | answered status _ => .remote node ("unexpected status " ++ Http.statusText status)

def isUnreachable : Exchange → Bool
  | unreachable _ => true
  | _ => false

end Exchange

structure Connections (ω : Type) where
  connected : List Node := []
  /-- Who is told of nodes that are lost, in the order in which they are told. -/
  listeners : List ω := []

/-- What an exchange comes to: its result, and who is told that which node is lost. -/
structure Contact (ω α : Type) where
  connections : Connections ω
  result : Except TransportError α
  told : List (ω × Node) := []
  notices : List Notice := []

namespace Connections

variable {ω : Type}

/-- The URL of a path at an address. -/
def url (address path : String) : String :=
  String.ofList ((address.toList.reverse.dropWhile (· = '/')).reverse) ++ path

def isConnected (c : Connections ω) (n : Node) : Bool := n ∈ c.connected

/-- A node was met. -/
def gain {α : Type} (c : Connections ω) (n : Node) (result : Except TransportError α) :
    Contact ω α :=
  if c.isConnected n then { connections := c, result }
  else
    { connections := { c with connected := n :: c.connected }, result
      notices := [.connected n] }

/-- A node was not met. -/
def lose {α : Type} (c : Connections ω) (n : Node) (result : Except TransportError α) :
    Contact ω α :=
  if c.isConnected n then
    { connections := { c with connected := c.connected.filter (· ≠ n) }, result
      told := c.listeners.map (·, n), notices := [.disconnected n] }
  else { connections := c, result }

/-- An exchange with a node failed: the node is lost if nobody was there. -/
def fail {α : Type} (c : Connections ω) (n : Node) (limit : Duration) (e : Exchange) :
    Contact ω α :=
  let result := .error (e.error n.text limit)
  if e.isUnreachable then c.lose n result else { connections := c, result }

/-- What a ping to a node came to. -/
def ping (c : Connections ω) (target : Node) (limit : Duration) : Exchange → Contact ω Unit
  | .answered status body =>
    if Http.isSuccess status then c.gain target (.ok ())
    else if status = 409 then
      match Exchange.bodyAs RejectionBody.ofJson body with
      | .ok b => { connections := c, result := .error (.rejected target.text b.rejection) }
      | .error e => c.fail target limit e
    else
      let message :=
        match Exchange.bodyAs ErrorBody.ofJson body with
        | .ok b => b.error
        | .error _ => "unexpected status " ++ Http.statusText status
      { connections := c, result := .error (.remote target.text message) }
  | e => c.fail target limit e

/-- What an attempt to reach a node came to: the node has to be the one that is there. -/
def connect (c : Connections ω) (target : Node) (limit : Duration) (e : Exchange) :
    Contact ω Unit :=
  match e.node with
  | .error e => c.fail target limit e
  | .ok found =>
    if found = target then c.gain target (.ok ())
    else
      let contact := c.lose target (.error
        (.disconnected target.text ("address is now served by " ++ found.text)))
      { contact with notices := .otherNodeFound target found :: contact.notices }

/-- What a question who is at an address came to. -/
def handshake (c : Connections ω) (address : String) (limit : Duration) (e : Exchange) :
    Contact ω Node :=
  match e.node with
  | .ok found => c.gain found (.ok found)
  | .error e =>
    let error :=
      match e.error address limit with
      | .timeout node limit => .timeout node limit
      | .remote node message => .disconnected node message
      | error => error
    { connections := c, result := .error error }

def addListener (c : Connections ω) (listener : ω) : Connections ω :=
  { c with listeners := c.listeners ++ [listener] }

/-- A listener that was added several times goes altogether. -/
def removeListener [DecidableEq ω] (c : Connections ω) (listener : ω) : Connections ω :=
  { c with listeners := c.listeners.filter (· ≠ listener) }

end Connections

end Vigil

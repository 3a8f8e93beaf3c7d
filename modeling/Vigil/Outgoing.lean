import Vigil.Connections
import Vigil.Http.Framing
import Vigil.Server

/-!
The calls that a node makes: where they go, how they are written, and what the bytes that come back
mean.
-/

namespace Vigil

/-- A call that a node makes. -/
inductive OutgoingCall where
  | ping (request : PingRequest) (limit : Duration)
  | connect (node : Node)
  | handshake (address : String)

namespace OutgoingCall

/-- The URL that is asked. -/
def url : OutgoingCall → String
  | ping request _ => Connections.url request.leader.address Route.leaderPing.path
  | connect node => Connections.url node.address Route.identity.path
  | handshake address => Connections.url address Route.identity.path

/-- How long the answer may take, where `limit` holds for all calls that are no pings. -/
def limit (limit : Duration) : OutgoingCall → Duration
  | ping _ limit => limit
  | _ => limit

/-- The request for a target at a host. Nothing follows it on its connection. -/
def text (host target : String) : OutgoingCall → String
  | ping request _ =>
    let body := request.toJson.toText
    Http.messageText ("POST " ++ target ++ " HTTP/1.1") [
      ("host", host), ("content-type", "application/json"),
      ("content-length", toString body.utf8ByteSize), ("connection", "close")] body
  | _ =>
    Http.messageText ("GET " ++ target ++ " HTTP/1.1") [("host", host), ("connection", "close")] ""

end OutgoingCall

namespace Exchange

/-- What the bytes of an answer mean, unless more of them have to come; `ended` says that they can
not. -/
def ofBytes? (bytes : ByteArray) (ended : Bool) : Option Exchange :=
  match Http.Head.read bytes with
  | .incomplete => if ended then some (.failed "connection closed before the answer") else none
  | .malformed => some (.failed "invalid answer")
  | .whole head rest =>
    match head.status?, head.extent? .rest with
    | some status, some extent =>
      let broken : Exchange := .answered status (.error (.broken undecodable))
      match Http.readBody bodyLimit ended rest extent with
      | .whole body _ => some (.answered status (.ok (Text.letters body)))
      | .malformed => some broken
      | .incomplete => if ended then some broken else none
    | _, _ => some (.failed "invalid answer")

/-- What the bytes of an answer mean that is not waited for any more. -/
def ofLateBytes (bytes : ByteArray) : Exchange :=
  match Http.Head.read bytes with
  | .whole head _ =>
    match head.status? with
    | some status => .answered status (.error .timedOut)
    | none => .timedOut
  | _ => .timedOut

end Exchange

end Vigil

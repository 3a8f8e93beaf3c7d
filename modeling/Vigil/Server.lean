import Vigil.Http.Request
import Vigil.Leader
import Vigil.Text.Letters
import Vigil.Wire

/-!
A node as it answers HTTP requests: its health, its metrics, who it is, and the pings of its
followers. Every request is counted under its method, its path and the status of its answer; paths
that are not served are counted as one.
-/

namespace Vigil

open Http (Request Response)

inductive Route where
  | health
  | metrics
  | identity
  | leaderPing
deriving DecidableEq, Repr

namespace Route

def path : Route → String
  | health => "/health"
  | metrics => "/metrics"
  | identity => "/internal/node"
  | leaderPing => "/internal/leader_ping"

def all : List Route := [health, metrics, identity, leaderPing]

def ofPath? (path : String) : Option Route := all.find? (·.path == path)

/-- The path under which requests for a path are counted. -/
def label (path : String) : String := ((ofPath? path).map Route.path).getD "/other"

/-- What may be read may also be asked for without its body. -/
def methods : Route → List String
  | leaderPing => ["POST"]
  | _ => ["GET", "HEAD"]

end Route

/-- What a request asks of a node. -/
inductive Demand where
  | health
  | metrics
  | identity
  | ping (request : PingRequest)
  /-- What is wrong with the request answers it. -/
  | refused (response : Response)

/-- The largest body of a request, in bytes. -/
def bodyLimit : Nat := 2 * 1024 * 1024

/-- The ping in a body that is said to be JSON. Text behind the ping does not matter. -/
def readPing (r : Request) : Except Response PingRequest :=
  if !r.hasJson then
    .error (.plain 415 "Expected request with `Content-Type: application/json`")
  else if r.body.size > bodyLimit then
    .error (.plain 413 "Failed to buffer the request body: length limit exceeded")
  else
    match PingRequest.ofJson (Json.parse (Text.letters r.body)).1 with
    | .ok ping => .ok ping
    | .error .unreadable => .error (.plain 400 "Failed to parse the request body as JSON")
    | .error e =>
      let text := e.text "null"
      .error (.plain 422 ("Failed to deserialize the JSON body into the target type: " ++ text))

/-- Finds out what a request asks for: its path decides first, then its method, then its body. -/
def demand (r : Request) : Demand :=
  match Route.ofPath? r.path with
  | none => .refused { status := 404 }
  | some route =>
    if r.method ∉ route.methods then
      .refused { status := 405, allow := some (",".intercalate route.methods) }
    else
      match route with
      | .health => .health
      | .metrics => .metrics
      | .identity => .identity
      | .leaderPing =>
        match readPing r with
        | .ok ping => .ping ping
        | .error response => .refused response

def pingResponse : Except PingError Unit → Response
  | .ok () => .json 200 (PingResponse.toJson ⟨⟩).toText
  | .error e => .json e.status e.body.toText

structure Server (ω : Type) where
  /-- What the node says it is. -/
  identity : Node
  leader : Leader ω
  /-- How the recorder writes what it has counted, if one is installed. -/
  recorder : Option (Metrics → String)

namespace Server

variable {ω : Type}

def metricsResponse (s : Server ω) : Response :=
  match s.recorder with
  | some write =>
    { status := 200, contentType := some "text/plain; version=0.0.4"
      body := write s.leader.metrics }
  | none => .plain 503 "metrics are disabled"

/-- Does what a request asks for. -/
def perform (s : Server ω) (who : ω) : Demand → Server ω × Response
  | .health => (s, .json 200 "\x7b\"status\":\"ok\"\x7d")
  | .metrics => (s, s.metricsResponse)
  | .identity => (s, .json 200 s.identity.toJson.toText)
  | .ping request =>
    let (leader, answer) := s.leader.ask request who
    ({ s with leader }, pingResponse (answer.getD (.error (.internal "no answer"))))
  | .refused response => (s, response)

/-- Counts a request that was answered; reading the metrics does not count. -/
def countRequest (s : Server ω) (r : Request) (status : Nat) : Server ω :=
  if r.path = Route.metrics.path then s
  else
    let label := Route.label r.path
    let metrics := s.leader.metrics.count (.requests r.method label status)
    { s with leader := { s.leader with metrics := metrics.count (.requestTimes r.method label) } }

/-- Answers a request. The answer to one that asks for no body has none. -/
def serve (s : Server ω) (who : ω) (r : Request) : Server ω × Response :=
  let (s, response) := s.perform who (demand r)
  let response := if r.method = "HEAD" then { response with body := "" } else response
  (s.countRequest r response.status, response)

end Server

end Vigil

import Vigil.Exposition
import Vigil.Outgoing
import Vigil.World.Operation

/-!
A node as it runs: it answers requests, watches the leader, discovers its peers, and keeps track of
whom it is connected to. The calls that it makes are answered from outside.
-/

namespace Vigil

open Http (Request Response)

structure Process where
  identity : Node
  world : World
  connections : Connections Unit := {}
  /-- How the metrics are written, if they can be read. -/
  recorder : Option (Metrics → String)

namespace Process

/-- A node that starts knows itself and whom it takes for the leader. -/
def start (c : Config) (identity : Node) : Process :=
  let name := c.cluster.name
  let state := (ClusterState.initial name identity).withLeader c.cluster.leaderId
  let world := World.start state c.faultDetection name true (some (Discovery.ofConfig c.cluster))
  let listeners := if c.faultDetection.registerConnectionListener then [()] else []
  { identity
    recorder := if c.observability.metrics then some (·.text true) else none
    world := { world with network := { world.network with live := true } }
    connections := { listeners } }

def operate (p : Process) (op : Operation) : Process := { p with world := (p.world.operate op).1 }

/-- Begins to look for the peers, round after round. -/
def discover (p : Process) : Process := p.operate .startDiscovery

/-- Lets time pass up to a moment, in milliseconds since the start. -/
def reach (p : Process) (moment : Nat) : Process :=
  p.operate (.advance (moment - p.world.agenda.now))

/-- The node as a server; a ping is decided on the state that applies now. -/
def server (p : Process) : Server Unit where
  identity := p.identity
  recorder := p.recorder
  leader := {
    clusterName := p.world.detector.clusterName
    queue := { applied := p.world.queue.applied }
    metrics := p.world.metrics }

/-- Answers a request. -/
def serve (p : Process) (r : Request) : Process × Response :=
  let (server, response) := p.server.serve () r
  let world := { p.world with metrics := server.leader.metrics }
  ({ p with world := world.tellAll server.leader.notices.reverse }, response)

/-- What the calls of a process to others came to. -/
def conclude {α : Type} (p : Process) (key : Nat) (c : Contact Unit α) (found : Option Node) :
    Process :=
  let p := { p with connections := c.connections, world := p.world.tellAll c.notices }
  p.operate (.answer (toString key) (c.result.map fun _ => ()) found (c.told.map (·.2)))

/-- An exchange answers a call of some number; `limit` is how long connecting may take. -/
def complete (p : Process) (limit : Duration) (key : Nat) (e : Exchange) : OutgoingCall → Process
  | .ping request limit =>
    p.conclude key (p.connections.ping request.leader limit e) none
  | .connect node => p.conclude key (p.connections.connect node limit e) none
  | .handshake address =>
    let contact := p.connections.handshake address limit e
    p.conclude key contact contact.result.toOption

/-- Stops all that is under way. -/
def stop (p : Process) : Process :=
  ((p.operate .abortDiscovery).operate .shutdown).operate .closeScheduler

/-- What happened since the last time: what was told, and the calls that were made, each with its
number. -/
def harvest (p : Process) : Process × List Notice × List (Nat × OutgoingCall) :=
  let events := p.world.events.reverse.map (·.2)
  let notices := events.filterMap fun
    | .told notice => some notice
    | _ => none
  let calls := events.filterMap fun
    | .ping request limit => some (OutgoingCall.ping request (.ofMillis limit))
    | .connect node => some (.connect node)
    | .handshake address => some (.handshake address)
    | _ => none
  let first := p.world.network.calls - calls.length
  ({ p with world := { p.world with events := [] } }, notices,
    calls.mapIdx fun i call => (first + i, call))

end Process

end Vigil

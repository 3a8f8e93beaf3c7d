import Vigil.World.Basic

/-!
What an operator, the network or time do to a follower, one operation after the other. After each of
them everything happens that needs no time.
-/

namespace Vigil

inductive Operation where
  | restart (leader : Node) (reason : String)
  | stop (reason : String)
  | shutdown
  | addListener (name : String) (listener : Listener)
  | removeListener (name : String)
  | scriptPings (scripts : List Script)
  | scriptConnects (scripts : List Script)
  | serve (served : Served)
  | unserve (address : String)
  | release (key : String) (reply : ScriptedReply)
  /-- A call is answered from outside, at once, perhaps with the node that was found and with nodes
  that were lost. -/
  | answer (key : String) (result : Except TransportError Unit) (found : Option Node)
      (lost : List Node)
  /-- The transport lost its connection to a node. -/
  | lose (node : Node)
  /-- The detector is told directly that a connection was lost. -/
  | handleDisconnect (node : Node)
  | submit (task : StateTask)
  | forget (failure : LeaderFailure)
  | discover
  | startDiscovery
  | abortDiscovery
  | closeScheduler
  | advance (time : Nat)
  | drop
  | nothing

/-- What an operation returns. -/
inductive Returned where
  | nothing
  | flag (value : Bool)
  | result (result : Except StateTaskError Unit)

namespace World

/-- How many steps may follow one operation. -/
def stepLimit : Nat := 1000000

/-- Lets everything happen that needs no time. -/
def settle (w : World) : World := runUntil w.agenda.now stepLimit w

/-- Lets time pass, and everything happen that is due up to and including its end. -/
def advance (w : World) (time : Nat) : World :=
  let limit := w.agenda.now + time
  let w := runUntil limit stepLimit w
  { w with agenda := w.agenda.reach limit }

/-- Whether a task of the state queue is no longer waited for, once the loop of rounds is gone. -/
def forgetLoop : Option Waiter → Option Waiter
  | some (.discovery _ _ (some _)) => none
  | waiter => waiter

/-- Stops the loop of discovery rounds, wherever it is. -/
def abortDiscovery (w : World) : World :=
  { w with
    agenda := { w.agenda with
      ready := w.agenda.ready.filter (!·.inLoop)
      timers := w.agenda.timers.filter (!·.2.inLoop) }
    held := w.held.filter (!·.2.inLoop)
    queue := { w.queue with pending := w.queue.pending.map fun (t, x) => (t, forgetLoop x) } }

/-- The transport tells its listener, if that still knows the detector. -/
def lose (w : World) (node : Node) : World :=
  if w.detector.attached && w.remembered then
    if w.schedulerClosed then w.tell (.disconnectNotHandled node .closed)
    else w.spawn (.disconnected node false)
  else w

/-- Does an operation, before anything follows from it. -/
def apply (w : World) (op : Operation) : World × Returned :=
  let operate (next : World) : World × Returned := (if w.operated then next else w, .nothing)
  match op with
  | .restart leader reason => operate (w.update false (w.detector.restart leader reason))
  | .stop reason => operate (w.update false (w.detector.stop reason))
  | .shutdown => operate (w.update false w.detector.shutdown)
  | .addListener name listener =>
    let (detector, id) := w.detector.addListener listener
    operate { w with detector, names := (name, id) :: w.names }
  | .removeListener name =>
    if w.operated then
      let (w, present) := w.removeListener name
      (w, present.elim .nothing .flag)
    else (w, .nothing)
  | .scriptPings scripts =>
    ({ w with network := { w.network with pings := w.network.pings ++ scripts } }, .nothing)
  | .scriptConnects scripts =>
    ({ w with network := { w.network with connects := w.network.connects ++ scripts } }, .nothing)
  | .serve served => ({ w with network := w.network.serve served }, .nothing)
  | .unserve address => ({ w with network := w.network.unserve address }, .nothing)
  | .release key reply =>
    match w.held.lookup key with
    | none => (w, .flag false)
    | some call =>
      ({ w with held := w.held.filter (·.1 != key) }.spawn (.released call reply), .flag true)
  | .answer key result found lost =>
    let w := lost.foldl lose w
    match w.held.lookup key with
    | none => (w, .flag false)
    | some call =>
      let call := found.elim call call.finding
      ({ w with held := w.held.filter (·.1 != key) }.proceed (.answered call result), .flag true)
  | .lose node => (w.lose node, .nothing)
  | .handleDisconnect node => operate (w.spawn (.disconnected node true))
  | .submit task => ({ w with outcome := none }.submit task .operator, .nothing)
  | .forget failure => (w.beginForget failure, .nothing)
  | .discover =>
    operate (match w.discovery with
      | some d => w.spawn (.discover d.others none)
      | none => w)
  | .startDiscovery =>
    operate (match w.discovery with
      | some _ => w.spawn .looping
      | none => w)
  | .abortDiscovery => (w.abortDiscovery, .nothing)
  | .closeScheduler => ({ w with schedulerClosed := true }, .nothing)
  | .advance time => (w.advance time, .nothing)
  | .drop => ({ w with operated := false }.giveUp, .nothing)
  | .nothing => (w, .nothing)

/-- Does an operation and all that follows from it without delay. -/
def operate (w : World) (op : Operation) : World × Returned :=
  let (w, returned) := w.apply op
  let w := w.settle.giveUp
  match op, w.outcome with
  | .submit _, some result => (w, .result result)
  | _, _ => (w, returned)

/-- A follower at the start, idle and with its listeners yet to come. -/
def start (state : ClusterState) (settings : FaultDetectionConfig) (clusterName : ClusterName)
    (forget : Bool) (discovery : Option Discovery) : World :=
  let (detector, effects) := Detector.create settings clusterName
  let w : World := { detector, queue := { applied := state }, discovery }
  let w := effects.foldl (perform false) w
  if forget then (w.apply (.addListener "forget" .forget)).1 else w

/-- Whom the operator sees watched. -/
def watching (w : World) : Option Node :=
  if w.operated then w.detector.session.leader else none

end World

end Vigil

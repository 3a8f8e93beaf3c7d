import Vigil.Agenda
import Vigil.Detector
import Vigil.Discovery
import Vigil.Metrics
import Vigil.World.Network

/-!
A follower in a scripted network: its detector, its state queue, its discovery, and all tasks that
are under way, on a clock in milliseconds. A task runs from one wait to the next without a break;
`World.run` is that one step. What happens is recorded.
-/

namespace Vigil

/-- What a listener does to the detector when it is told of a failure. -/
inductive Reaction where
  | restart (leader : Node)
  | stop
  | shutdown
  | remove (name : String)
deriving DecidableEq, Repr

inductive Listener where
  /-- Forgets the leader that failed. -/
  | forget
  | named (name : String) (reaction : Option Reaction)
  | closure (name : String)
deriving DecidableEq, Repr

/-- What can be observed of a follower. -/
inductive Event where
  | ping (request : PingRequest) (limit : Nat)
  | connect (node : Node)
  | handshake (address : String)
  | failure (listener : String) (failure : LeaderFailure)
  | closure (listener : String) (leader : Node)
  | removed (name : String) (present : Bool)
  | told (notice : Notice)

/-- Where a round of discovery goes on: when the next round of its loop is due, if it has one. -/
abbrev Loop := Option Nat

/-- A call of the transport that waits for its answer. -/
inductive Call where
  | ping (p : PingerId) (request : PingRequest)
  /-- `keeps` marks calls that keep the detector in use. -/
  | connect (before : Option PingerId) (node : Node) (keeps : Bool)
  | handshake (peer : PeerConfig) (rest : List PeerConfig) (loop : Loop) (found : Node)

/-- Who waits for the result of a state task. -/
inductive Waiter where
  | operator
  | forgetting
  | discovery (peer : PeerConfig) (rest : List PeerConfig) (loop : Loop)

/-- Work that waits for its turn. -/
inductive Task where
  /-- A ping that the scheduler took; its delay begins with its first turn. -/
  | scheduled (delay : Nat) (p : PingerId)
  | round (p : PingerId)
  | answered (call : Call) (result : Except TransportError Unit)
  | disconnected (node : Node) (keeps : Bool)
  | dispatch (listeners : List (Nat × Listener)) (failure : LeaderFailure)
  | forget (leader : Node)
  | discover (rest : List PeerConfig) (loop : Loop)
  /-- The start of a loop of rounds. -/
  | looping
  | tick (due : Nat)
  /-- The worker of the state queue. -/
  | work
  | finished (waiter : Waiter) (result : Except StateTaskError Unit)
  /-- A reply of the network that was held back, with what is to be told to the caller. -/
  | released (call : Call) (reply : ScriptedReply)

structure World where
  agenda : Agenda Task := {}
  detector : Detector Listener
  queue : StateQueue (Option Waiter)
  discovery : Option Discovery := none
  schedulerClosed : Bool := false
  network : Network := {}
  /-- Calls that wait for the release of a key. -/
  held : List (String × Call) := []
  /-- The numbers of the named listeners, the latest first. -/
  names : List (String × Nat) := []
  metrics : Metrics := {}
  /-- Whether the operator still holds the detector. -/
  operated : Bool := true
  /-- Whether the detector was given up by all who held it. -/
  abandoned : Bool := false
  /-- The result of the latest task that the operator submitted. -/
  outcome : Option (Except StateTaskError Unit) := none
  /-- All that was observed, with its time, the latest first. -/
  events : List (Nat × Event) := []

/-- How long connections and handshakes may take, in milliseconds. -/
def connectLimit : Nat := 500

namespace Call

/-- What the errors of a call name as its target. -/
def target : Call → String
  | ping _ request => request.leader.text
  | connect _ node _ => node.text
  | handshake peer .. => peer.address

/-- The call with another node found at its address. -/
def finding (found : Node) : Call → Call
  | handshake peer rest loop _ => handshake peer rest loop found
  | call => call

/-- Whether a call belongs to a loop of discovery rounds. -/
def inLoop : Call → Bool
  | handshake _ _ loop _ => loop.isSome
  | _ => false

/-- Whether a call keeps the detector in use. -/
def keepsDetector : Call → Bool
  | ping .. => false
  | connect _ _ keeps => keeps
  | handshake .. => true

end Call

namespace Task

def inLoop : Task → Bool
  | discover _ loop => loop.isSome
  | looping | tick _ => true
  | answered call _ | released call _ => call.inLoop
  | finished (.discovery _ _ loop) _ => loop.isSome
  | _ => false

def keepsDetector : Task → Bool
  | discover .. | looping | tick _ => true
  | disconnected _ keeps => keeps
  | answered call _ | released call _ => call.keepsDetector
  | finished (.discovery ..) _ => true
  | _ => false

/-- Whether a task keeps the state of the detector, if nothing else does. -/
def refersToDetector : Task → Bool
  | scheduled .. | round _ | disconnected .. | discover .. | looping | tick _ => true
  | answered .. | released .. => true
  | finished (.discovery ..) _ => true
  | _ => false

end Task

namespace World

def observe (w : World) (e : Event) : World := { w with events := (w.agenda.now, e) :: w.events }

def tell (w : World) (n : Notice) : World := w.observe (.told n)

def tellAll (w : World) (ns : List Notice) : World := ns.foldl tell w

theorem tellAll_preserves {P : World → Prop} {w : World} (ns : List Notice) (start : P w)
    (one : ∀ v n, P v → P (v.tell n)) : P (w.tellAll ns) :=
  List.foldlRecOn ns tell start fun v h n _ => one v n h

def spawn (w : World) (t : Task) : World := { w with agenda := w.agenda.push t }

/-- Goes on with a task without giving others a turn. -/
def proceed (w : World) (t : Task) : World := { w with agenda := w.agenda.pushFront t }

/-- Lets a task wait for some milliseconds; without any it goes on at once. -/
def after (w : World) (time : Nat) (t : Task) : World :=
  if time = 0 then w.proceed t else { w with agenda := w.agenda.wait time t }

def pingLimit (w : World) : Nat := w.detector.settings.pingTimeout.millis

/-- How many milliseconds a call may take. -/
def limit (w : World) : Call → Nat
  | .ping .. => w.pingLimit
  | _ => connectLimit

/-- The network answers a call. -/
def reply (w : World) (call : Call) (r : ScriptedReply) : World :=
  w.after (r.time (w.limit call)) (.answered call (r.result call.target (w.limit call)))

def hold (w : World) (key : String) (c : Call) : World := { w with held := w.held ++ [(key, c)] }

/-- Gives a call to a live network. -/
def emit (w : World) (c : Call) : World :=
  let n := w.network.calls
  { w with network := { w.network with calls := n + 1 } }.hold (toString n) c

/-- Makes a call, which the network answers by its script. -/
def call (w : World) (c : Call) (script : Script) : World :=
  if w.network.live then w.emit c
  else
    match script with
    | .reply r => w.reply c r
    | .hold key => w.hold key c

/-- Does what the detector asks for; `keeps` marks work that keeps the detector in use. -/
def perform (keeps : Bool) (w : World) (effect : Effect Listener) : World :=
  match effect with
  | .tell notice => w.tell notice
  | .count series => { w with metrics := w.metrics.count series }
  | .schedule p delay =>
    if w.schedulerClosed then w.tell (.pingNotScheduled .closed)
    else w.spawn (.scheduled delay.millis p)
  | .dispatch listeners failure =>
    if w.schedulerClosed then w.tell (.failureNotDispatched .closed)
    else w.spawn (.dispatch listeners failure)
  | .ping p request =>
    let w := w.observe (.ping request w.pingLimit)
    let (script, pings) := Network.next w.network.pings
    { w with network := { w.network with pings } }.call (.ping p request) script
  | .connect before node =>
    let w := w.observe (.connect node)
    let (script, connects) := Network.next w.network.connects
    { w with network := { w.network with connects } }.call (.connect before node keeps) script

/-- Takes over what an event made of the detector. -/
def update (w : World) (keeps : Bool) (r : Detector Listener × List (Effect Listener)) : World :=
  r.2.foldl (perform keeps) { w with detector := r.1 }

/-- What everything done for the detector preserves, all of it together preserves. -/
theorem update_preserves {P : World → Prop} {w : World} (keeps : Bool)
    (r : Detector Listener × List (Effect Listener)) (start : P { w with detector := r.1 })
    (one : ∀ v e, e ∈ r.2 → P v → P (v.perform keeps e)) : P (w.update keeps r) :=
  List.foldlRecOn r.2 _ start fun v h e there => one v e there h

/-- Submits a state task; the worker of the queue wakes if it had nothing to do. -/
def submit (w : World) (task : StateTask) (waiter : Waiter) : World :=
  match w.queue.submit task (some waiter) with
  | .error e => w.proceed (.finished waiter (.error e))
  | .ok queue =>
    let idle := w.queue.pending.isEmpty
    let w := { w with queue }
    if idle then w.spawn .work else w

/-- Removes a named listener; tells whether it was there, if there ever was one of that name. -/
def removeListener (w : World) (name : String) : World × Option Bool :=
  match w.names.lookup name with
  | none => (w, none)
  | some id =>
    let (detector, present) := w.detector.removeListener id
    ({ w with detector }, some present)

def react (w : World) : Reaction → World
  | .restart leader => w.update false (w.detector.restart leader "listener")
  | .stop => w.update false (w.detector.stop "listener")
  | .shutdown => w.update false w.detector.shutdown
  | .remove name =>
    let (w, present) := w.removeListener name
    w.observe (.removed name (present.getD false))

/-- The leader that failed is to be forgotten. -/
def beginForget (w : World) (failure : LeaderFailure) : World :=
  (w.tell (.leaderFailed failure.leader failure.reason)).spawn (.forget failure.leader)

/-- Tells one listener of a failure. -/
def notify (failure : LeaderFailure) (w : World) (listener : Nat × Listener) : World :=
  match listener.2 with
  | .forget => w.beginForget failure
  | .closure name => w.observe (.closure name failure.leader)
  | .named name reaction =>
    let w := w.observe (.failure name failure)
    match reaction with
    | some reaction => if w.operated then w.react reaction else w
    | none => w

/-- The end of a round of discovery: the detector is pointed at the leader. -/
def reconcile (w : World) : World :=
  match Discovery.adjustment w.queue.applied w.detector.session.leader with
  | .none => w
  | .stop => w.update true (w.detector.stop "local node is the leader")
  | .restart leader => w.update true (w.detector.restart leader "leader discovered")

/-- Goes on with a round of discovery. -/
def discover (w : World) (rest : List PeerConfig) (loop : Loop) : World :=
  match rest with
  | [] =>
    let w := w.reconcile
    match loop with
    | none => w
    | some due => w.after (due - w.agenda.now) (.tick due)
  | peer :: rest =>
    let w := w.observe (.handshake peer.address)
    let call : Node → Call := .handshake peer rest loop
    let nobody : Node := ⟨"", "", peer.address⟩
    match w.network.at? peer.address with
    | some served => w.call (call served.node) served.script
    | none =>
      if w.network.live then w.emit (call nobody)
      else
        let refused := .error (.disconnected peer.address "connection refused")
        w.proceed (.answered (call nobody) refused)

/-- A peer answered, or failed to. -/
def handshaken (w : World) (peer : PeerConfig) (rest : List PeerConfig) (loop : Loop)
    (answer : Except TransportError Node) : World :=
  let finding := Discovery.findings peer w.queue.applied answer
  let w := w.tellAll (finding.notice peer)
  match finding with
  | .new node => w.submit (Discovery.recordTask node) (.discovery peer rest loop)
  | _ => w.proceed (.discover rest loop)

/-- A call was answered. -/
def answer (w : World) (call : Call) (result : Except TransportError Unit) : World :=
  match call with
  | .ping p request => w.update false (w.detector.pinged p request result)
  | .connect before node keeps => w.update keeps (w.detector.connected before node result)
  | .handshake peer rest loop found => w.handshaken peer rest loop (result.map fun _ => found)

/-- Someone learns how a state task came out. -/
def finish (w : World) (waiter : Waiter) (result : Except StateTaskError Unit) : World :=
  match waiter, result with
  | .operator, result => { w with outcome := some result }
  | .forgetting, .ok () => w
  | .forgetting, .error e => w.tell (.leaderNotForgotten e)
  | .discovery _ rest loop, .ok () => w.proceed (.discover rest loop)
  | .discovery peer rest loop, .error e =>
    (w.tell (.peerNotRecorded peer.id e)).proceed (.discover rest loop)

/-- The worker runs the oldest state task. -/
def work (w : World) : World :=
  match w.queue.runOne with
  | none => w
  | some (queue, done) =>
    let w := { w with queue }.tellAll done.notices
    let w := match done.waiter with
      | some waiter => w.spawn (.finished waiter done.result)
      | none => w
    if w.queue.pending.isEmpty then w else w.proceed .work

/-- The period of the discovery loop. -/
def period (w : World) : Nat :=
  match w.discovery with
  | some d => d.interval.millis
  | none => 0

def others (w : World) : List PeerConfig :=
  match w.discovery with
  | some d => d.others
  | none => []

/-- One task runs, from one wait to the next. -/
def run (w : World) (task : Task) : World :=
  match task with
  | .scheduled 0 p | .round p =>
    w.update false (w.detector.beginRound p w.queue.applied.localNode)
  | .scheduled delay p => w.after delay (.round p)
  | .answered call result => w.answer call result
  | .released call r => w.reply call r
  | .disconnected node keeps => w.update keeps (w.detector.disconnected node)
  | .dispatch listeners failure => listeners.foldl (notify failure) w
  | .forget leader => w.submit (Discovery.forgetTask leader) .forgetting
  | .discover rest loop => w.discover rest loop
  | .looping => if w.period = 0 then w else w.proceed (.tick w.agenda.now)
  | .tick due =>
    w.proceed (.discover w.others (some (Discovery.nextRound w.period due w.agenda.now)))
  | .work => w.work
  | .finished waiter result => w.finish waiter result

/-- Whether anything under way keeps the detector in use. -/
def inUse (w : World) : Bool :=
  w.operated || w.agenda.ready.any (·.keepsDetector) ||
    w.agenda.timers.any (·.2.keepsDetector) || w.held.any (·.2.keepsDetector) ||
    w.queue.pending.any fun (_, waiter) =>
      match waiter with
      | some (.discovery ..) => true
      | _ => false

/-- Whether anything under way keeps the state of the detector. -/
def remembered (w : World) : Bool :=
  w.inUse || w.agenda.ready.any (·.refersToDetector) ||
    w.agenda.timers.any (·.2.refersToDetector) || !w.held.isEmpty

/-- A detector that nobody holds any more ends its session. -/
def giveUp (w : World) : World :=
  if w.abandoned || w.inUse then w
  else { w with detector := w.detector.endSession, abandoned := true }

/-- The next thing that happens until some moment: a ready task runs, or else the clock moves to the
next moment that a task waits for. -/
def step (w : World) (limit : Nat) : Option World :=
  match w.agenda.pop with
  | some (task, agenda) => some ({ w with agenda }.run task).giveUp
  | none => (w.agenda.wake limit).map fun agenda => { w with agenda }

/-- Lets things happen until some moment, at most as many as there is fuel for. -/
def runUntil (limit : Nat) : Nat → World → World
  | 0, w => w
  | fuel + 1, w =>
    match w.step limit with
    | some next => runUntil limit fuel next
    | none => w

end World

end Vigil
